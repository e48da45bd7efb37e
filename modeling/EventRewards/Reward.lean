import EventRewards.Draft
import EventRewards.Json.Decode

/-!
# Rewards

What users are given when a request of theirs is approved.
-/

namespace EventRewards

inductive RewardKind where
  | cash
  | point
  | coupon
  | item
  deriving DecidableEq, Repr

namespace RewardKind

def name : RewardKind → String
  | .cash => "cash"
  | .point => "point"
  | .coupon => "coupon"
  | .item => "item"

def all : List RewardKind :=
  [.cash, .point, .coupon, .item]

def decode : Decoder RewardKind :=
  Json.enumeration (all.map fun k => (k.name, k)) none

end RewardKind

structure Reward where
  id : String
  name : String
  kind : RewardKind
  amount : Double

namespace Reward

open Json in
def fields : List Field :=
  [optionalField "id" asText, field "name" asText, field "type" RewardKind.decode,
    field "amount" asNumber]

def decode : Decoder (Draft Reward) := fun j => do
  let r ← Json.record "Reward" fields j
  let id? ← r.get? "id" Json.asText
  let name ← r.get "name" Json.asText
  let kind ← r.get "type" RewardKind.decode
  let amount ← r.get "amount" Json.asNumber
  return ⟨id?, fun id => ⟨id, name, kind, amount⟩⟩

def toJson (r : Reward) : Json :=
  .obj [("id", .str r.id), ("name", .str r.name), ("type", .str r.kind.name),
    ("amount", if r.amount.isFinite then .float r.amount else .null)]

end Reward
end EventRewards
