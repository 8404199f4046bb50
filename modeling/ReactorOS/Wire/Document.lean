import Mathlib.Data.List.Nodup
import Mathlib.Data.Rat.Defs
namespace Wire

-- A document as a reader has it. A number is given by its value.
inductive Document where
  | null
  | bool (value : Bool)
  | number (value : ℚ)
  | string (text : String)
  | array (items : List Document)
  | object (members : List (String × Document))

namespace Document

-- Of members of one name the last one counts.
def member (members : List (String × Document)) (name : String) : Option Document :=
  (members.reverse.find? fun entry => entry.1 = name).map (·.2)

-- What Python takes for true.
def truthy : Document → Bool
  | .null => false
  | .bool value => value
  | .number value => value ≠ 0
  | .string text => !text.isEmpty
  | .array items => !items.isEmpty
  | .object members => !members.isEmpty

def int (value : Int) : Document := .number value

def ofOption {α : Type} (show' : α → Document) : Option α → Document
  | none => .null
  | some value => show' value

variable {members : List (String × Document)} {name : String} {value : Document}

theorem member_nodup (apart : (members.map Prod.fst).Nodup) (listed : (name,value) ∈ members) :
    member members name = some value := by
  have hit : members.reverse.find? (fun entry => entry.1 = name) = some (name,value) := by
    cases found : members.reverse.find? (fun entry => entry.1 = name) with
    | none =>
        have missed := List.find?_eq_none.mp found (name,value) (List.mem_reverse.mpr listed)
        simp at missed
    | some entry =>
        have same : entry.1 = name := by simpa using List.find?_some found
        have inside := List.mem_reverse.mp (List.mem_of_find?_eq_some found)
        have key := List.inj_on_of_nodup_map apart inside listed same
        exact congrArg some key
  unfold member
  rw [hit,Option.map_some]

end Document
end Wire
