import TsWorkshop.Reflection.Decode
import TsWorkshop.Proofs.Json.Canonical

/-!
What is kept of a value that is written back. `Kept role v w` says that `w` holds every member of
`v` that is not `null`, at every depth, and nothing else but the values of absent fields; of doc
comments and of the spelling of a big integer it says nothing. The role of a value says where in a
reflection it stands, so where these two are.
-/

namespace TsWorkshop

/-- What a value stands for in a reflection. An array has the role of its items. -/
inductive Role where
  | type | declaration | signature | parameter | comment | literal
  /-- A value that is not looked into. -/
  | plain
  deriving DecidableEq, Repr

namespace Role

/-- The fields of the payload under a tag that have a role of their own. -/
def inPayload : Tag → Assoc Role
  | .array => [("elementType", type)]
  | .conditional =>
    [("checkType", type), ("extendsType", type), ("trueType", type), ("falseType", type)]
  | .indexedAccess => [("objectType", type), ("indexType", type)]
  | .intersection | .union => [("types", type)]
  | .predicate => [("targetType", type)]
  | .reference => [("typeArguments", type)]
  | .reflection => [("declaration", declaration)]
  | .literal => [("value", literal)]
  | .tuple => [("elements", type)]
  | .typeOperator => [("target", type)]
  | .inferred | .intrinsic | .unknown => []

/-- The members of an object that have a role of their own. -/
def inObject (v : Json) : Role → Assoc Role
  | type =>
    match Tag.classify v with
    | some tag => inPayload tag
    | none => []
  | declaration =>
    [("comment", comment), ("children", declaration), ("signatures", signature),
     ("getSignature", signature), ("setSignature", signature), ("type", type)]
  | signature => [("comment", comment), ("parameters", parameter), ("type", type)]
  | parameter => [("type", type), ("comment", comment)]
  | comment | literal | plain => []

/-- The role of a member of an object. -/
def member (role : Role) (v : Json) (name : String) : Role :=
  (Assoc.get? name (role.inObject v)).getD plain

end Role

/-- The members that stand for absent fields of a descriptor. -/
def absentFields : Assoc Json :=
  [("name", .str ""), ("types", .arr []), ("asserts", .bool false), ("value", .null)]

/-- `w` holds what `v` holds, outside doc comments and big integers. -/
inductive Kept : Role → Json → Json → Prop
  | comment (v w : Json) : Kept .comment v w
  | bigint (v w : Json) (digits : String) (negative : Bool)
      (spelled : Literal.ofJson? v = some (.bigint digits negative)) : Kept .literal v w
  | leaf (role : Role) (v : Json) (atomic : v.items? = none ∧ v.members? = none) : Kept role v v
  | arr (role : Role) (vs ws : List Json) (length : vs.length = ws.length)
      (items : ∀ (i : Nat) (v w : Json), vs[i]? = some v → ws[i]? = some w → Kept role v w) :
      Kept role (.arr vs) (.arr ws)
  | obj (role : Role) (vs ws : Assoc Json)
      (present : ∀ name v, Assoc.get? name vs = some v → v ≠ .null →
        ∃ w, Assoc.get? name ws = some w)
      (same : ∀ name v w, Assoc.get? name vs = some v → Assoc.get? name ws = some w →
        Kept (role.member (.obj vs) name) v w)
      (added : ∀ name w, Assoc.get? name vs = none → Assoc.get? name ws = some w →
        (name, w) ∈ absentFields) :
      Kept role (.obj vs) (.obj ws)

/-- A value that is written as it stands is kept. -/
theorem Kept.refl (role : Role) (v : Json) : Kept role v v := by
  induction v using Json.induction_on_parts generalizing role with
  | step v ih =>
    cases v with
    | arr items =>
      refine Kept.arr role items items rfl fun i v w found again => ?_
      obtain rfl : v = w := Option.some.inj (found.symm.trans again)
      exact ih v (Json.sizeOf_item v items (List.mem_of_getElem? found)) role
    | obj members =>
      refine Kept.obj role members members (fun name v found _ => ⟨v, found⟩) ?_ ?_
      · intro name v w found again
        obtain rfl : v = w := Option.some.inj (found.symm.trans again)
        exact ih v (Json.sizeOf_member name v members (Assoc.mem_of_get? name members v found)) _
      · intro name w missing found
        rw [missing] at found
        cases found
    | null | bool | num | str => exact Kept.leaf role _ ⟨rfl, rfl⟩

end TsWorkshop
