import Vectis.Core.Canonical
import Vectis.Lib.Json.Pretty
import Vectis.Lib.Json.Record

/-!
# Typed records

Records that are written and read by their keys, and the indented text of files.

- `codecOf`: a shape as the codec of a type;
- `PrettyJson`: `to_string_pretty`, which is read back whatever the order of the fields.
-/

namespace Vectis.Core.Canonical

open Json

variable {T : Type}

/-- `derive(Serialize, Deserialize)` of a type with this shape. -/
def codecOf (shape : Shape T) : Codec T := ⟨shape.write, shape.read, shape.read_write⟩

theorem codecOf_plain (shape : Shape T) (t : T) : ((codecOf shape).toValue t).plain = true := shape.plain t

theorem codecOf_depth {shape : Shape T} (h : shape.levels < recursionLimit) (t : T) :
    ((codecOf shape).toValue t).depth < recursionLimit := Nat.lt_of_le_of_lt (shape.depth_le t) h

theorem codecOf_injective {shape : Shape T} {s t : T} (h : (codecOf shape).toValue s = (codecOf shape).toValue t) :
    s = t :=
  shape.write_injective h

/-- `serde_json::to_string_pretty`, of a value with its entries in the order of the fields. -/
structure PrettyJson (serde : SerdeJson) where
  toTextPretty : Value → String
  fromStrAs_pretty : ∀ {T : Type} (codec : Codec T) (t : T) (tree : Value), tree.integral = true → Unreserved tree →
    tree.depth < recursionLimit → tree.normalize = codec.toValue t → serde.fromStrAs codec (toTextPretty tree) = some t
  toTextPretty_integral : ∀ tree, tree.integral = true → toTextPretty tree = String.ofList (tree.pretty 0)

def PrettyJson.compact : PrettyJson .compact where
  toTextPretty tree := String.ofList (tree.pretty 0)
  fromStrAs_pretty codec t tree hintegral _ hdepth hnormal := by
    show (parse recursionLimit _).bind codec.fromValue = some t
    rw [parse_pretty hintegral hdepth, Option.bind_some, hnormal, codec.fromValue_toValue]
  toTextPretty_integral _ _ := rfl

end Vectis.Core.Canonical
