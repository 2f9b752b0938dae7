import Stencil.Value.Equality

/-!
# Members of values

What a value gives one by one, and whether it counts as something.
-/

namespace Stencil.Value

/-- The members that a value gives one by one. -/
def membersOf (heap : Heap) : Value → Except Fault (List Value)
  | .list ref => .ok (heap.items ref)
  | .tuple items => .ok items
  | .set ref => .ok (heap.members ref)
  | .dict ref => .ok ((heap.entries ref).map Prod.fst)
  | .text content => .ok (content.map fun point => .text [point])
  | .markup content => .ok (content.map fun point => .text [point])
  | .bytes content => .ok (content.map fun byte => .int byte.toNat)
  | _ => .error .wrongType

/-- Whether a value counts as something: nothing, zeros and what is empty do not. -/
def isTrue (heap : Heap) : Value → Bool
  | .none => false
  | .bool flag => flag
  | .int amount => amount != 0
  | .float amount => !(amount == 0)
  | .text content => !content.isEmpty
  | .markup content => !content.isEmpty
  | .bytes content => !content.isEmpty
  | .tuple items => !items.isEmpty
  | .list ref => !(heap.items ref).isEmpty
  | .dict ref => !(heap.entries ref).isEmpty
  | .set ref => !(heap.members ref).isEmpty
  | _ => true

end Stencil.Value
