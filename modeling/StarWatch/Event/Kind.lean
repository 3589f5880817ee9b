import StarWatch.Word

/-!
# Kinds of events

The contract emits five kinds of events. Each has a label for people, the name
it is declared under, and the signature hash that is topic 0 of its logs.
-/

namespace StarWatch

inductive EventKind where
  | create
  | changeName
  | putForSale
  | removeFromSale
  | purchase
deriving DecidableEq, Inhabited

namespace EventKind

/-- Every kind, in the order of the subscriptions. -/
def all : List EventKind := [create, changeName, putForSale, removeFromSale, purchase]

theorem mem_all (k : EventKind) : k ∈ all := by cases k <;> decide

def label : EventKind → String
  | create => "create"
  | changeName => "change_name"
  | putForSale => "put_for_sale"
  | removeFromSale => "remove_from_sale"
  | purchase => "purchase"

def name : EventKind → String
  | create => "Create"
  | changeName => "ChangeName"
  | putForSale => "PutForSale"
  | removeFromSale => "RemoveFromSale"
  | purchase => "Purchase"

def ofName? (s : String) : Option EventKind := all.find? fun k => k.name == s

theorem ofName?_name (k : EventKind) : ofName? k.name = some k := by cases k <;> rfl

/-- The digest of the declaration, such as `Purchase(address,uint256)`. -/
def signature : EventKind → Hash
  | create => ⟨0x645f015284b54bc389e86c58c9e6fa711dabfe2a1fd7d7fdf9440458b0074587⟩
  | changeName => ⟨0xf744b02e2965631679dba1d6ccc015286348dc6452ab377764b9bce7c65aec0c⟩
  | putForSale => ⟨0xeef8701c784dcc5b12eb5ce2687a9e42d1d94b6e81f660dcb84b51554c37f082⟩
  | removeFromSale => ⟨0xbfbf7e7677a0c423106146f1ee86ac042526b53581de06ba54c51e8acfeac746⟩
  | purchase => ⟨0x2499a5330ab0979cc612135e7883ebc3cd5c9f7a8508f042540c34723348f632⟩

/-- The kind that a signature names; other signatures are not tracked. -/
def ofSignature? (h : Hash) : Option EventKind := all.find? fun k => k.signature = h

theorem ofSignature?_signature (k : EventKind) : ofSignature? k.signature = some k := by
  cases k <;> decide

theorem eq_signature_of_ofSignature? {h : Hash} {k : EventKind}
    (found : ofSignature? h = some k) : h = k.signature := by
  have := List.find?_some found
  simpa [eq_comm] using this

end EventKind

end StarWatch
