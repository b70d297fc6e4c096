import Chronicle.Number.Binary64

/-!
# JSON values

A JSON value keeps the form of its numbers apart: one written with neither fraction nor exponent is
an integer of any size, every other one is a binary64 value. Members of an object have an order.
-/
namespace Chronicle

/-- A JSON value. -/
inductive Json where
  | null
  | bool (b : Bool)
  | int (i : Int)
  | float (x : Binary64)
  | str (s : String)
  | arr (items : List Json)
  | obj (members : List (String × Json))
  deriving Repr, BEq, Inhabited

namespace Json

/-- Sets the member with this key: in its place when there is one, and else at the end. -/
def setMember (members : List (String × Json)) (key : String) (value : Json) :
    List (String × Json) :=
  match members with
  | [] => [(key, value)]
  | (k, v) :: rest => if k = key then (k, value) :: rest else (k, v) :: setMember rest key value

/-- The object with these members. Of several members with one key the last value counts, in the
place of the first. -/
def object (members : List (String × Json)) : Json :=
  .obj (members.foldl (fun done m => setMember done m.1 m.2) [])

/-- The value under a key. -/
def member? (members : List (String × Json)) (key : String) : Option Json :=
  members.lookup key

theorem setMember_of_not_mem {members : List (String × Json)} {key : String} {value : Json}
    (h : key ∉ members.map (·.1)) : setMember members key value = members ++ [(key, value)] := by
  induction members with
  | nil => rfl
  | cons m rest ih =>
    simp only [List.map_cons, List.mem_cons, not_or] at h
    simp [setMember, Ne.symm h.1, ih h.2]

/-- The optional text `s` as a value. -/
def ofText? : Option String → Json
  | some s => .str s
  | none => .null

end Json

end Chronicle
