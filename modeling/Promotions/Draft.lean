import Promotions.Context.Document
import Promotions.Promotion.Reader

/-! Promotions and contexts as a caller states them, before they are checked: a promotion by its
source text or by its lines, a context by a document or by its parts. -/
namespace Promotions

inductive Draft.Body where
  | source (text : String)
  | lines (name : String) (conditions : List Condition) (rewards : List Reward)
  deriving Inhabited

/-- A promotion with what its source text cannot say: activity and dates. -/
structure Draft where
  body : Draft.Body
  active : Bool
  start : Option Timestamp
  finish : Option Timestamp
  deriving Inhabited

def Draft.promotion (draft : Draft) : Except SourceFault Promotion :=
  match draft.body with
  | .source text => do
      let p ← Promotion.ofText text
      return { p with active := draft.active, start := draft.start, finish := draft.finish }
  | .lines name conditions rewards =>
      .ok ⟨name, conditions, rewards, draft.active, draft.start, draft.finish⟩

inductive ContextDraft where
  | none
  | sample
  | document (value : Value)
  | parts (cart : Option (List Item)) (config : Option Config)
  deriving Inhabited

inductive ContextFault where
  | document (fault : DocumentFault)
  | price (bad : BadPrice)

def ContextFault.message : ContextFault → RawText
  | document fault => fault.message
  | price bad => bad.message

namespace ContextDraft

def cart (items : List Item) : Except ContextFault Cart :=
  (items.mapM fun (item : Item) => item.priced.mapError .price).map Cart.mk

def context : ContextDraft → Except ContextFault (Option Context)
  | none => .ok .none
  | sample => .ok (some .sample)
  | document value => ((Context.ofDocument value).mapError .document).map some
  | parts .none config => .ok (some ⟨.none, config, []⟩)
  | parts (some items) config => (cart items).map fun cart => some ⟨some cart, config, []⟩

end ContextDraft

end Promotions
