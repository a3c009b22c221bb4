import ContractDrill.Number.Binary64

/-!
# JSON values

A `Json` keeps what a JSON text says: integers of any size are told apart from numbers with a
point or an exponent, and an object is the list of its members in the order of the text.
-/

namespace ContractDrill

/-- A JSON value. -/
inductive Json where
  | null
  | bool (value : Bool)
  | integer (value : Int)
  | number (value : Binary64)
  | string (value : String)
  | array (items : List Json)
  | object (members : List (String × Json))
  deriving Inhabited

namespace Json

/-- The members of an object, in order. -/
abbrev Members := List (String × Json)

/-- The members with `value` under `name`: a name that is there keeps its position, a new one comes
last. -/
def Members.put (members : Members) (name : String) (value : Json) : Members :=
  match members with
  | [] => [(name, value)]
  | (n, v) :: rest => if n = name then (n, value) :: rest else (n, v) :: put rest name value

/-- The value under a name. -/
def Members.get? (members : Members) (name : String) : Option Json :=
  members.lookup name

/-- The member of an object under a name; other values have none. -/
def member? (name : String) : Json → Option Json
  | object members => members.lookup name
  | _ => none

/-- Whether the value counts as absent where a fallback is possible: `null`, `false`, zero, and
whatever is empty. -/
def isFalsy : Json → Bool
  | null => true
  | bool value => !value
  | integer value => value = 0
  | number value => value.ratio.any fun (num, _) => num = 0
  | string value => value.isEmpty
  | array items => items.isEmpty
  | object members => members.isEmpty

/-- The word that reports use for the kind of a value. -/
def kindName : Json → String
  | null => "NoneType"
  | bool _ => "bool"
  | integer _ => "int"
  | number _ => "float"
  | string _ => "str"
  | array _ => "list"
  | object _ => "dict"

/-- The value under the name just put is the one put there. -/
@[simp] theorem Members.get?_put (members : Members) (name : String) (value : Json) :
    (members.put name value).get? name = some value := by
  induction members with
  | nil => simp [put, get?]
  | cons entry rest ih =>
    obtain ⟨n, v⟩ := entry
    by_cases h : n = name
    · simp [put, get?, h]
    · have hne : (name == n) = false := beq_eq_false_iff_ne.mpr fun e => h e.symm
      rw [put, if_neg h, get?, List.lookup_cons, hne]
      exact ih

/-- Among members of different names each is found under its own. -/
theorem lookup_of_mem {members : Members} (hnames : (members.map Prod.fst).Nodup)
    {member : String × Json} (hmember : member ∈ members) :
    members.lookup member.1 = some member.2 := by
  induction members with
  | nil => cases hmember
  | cons first rest ih =>
    rw [List.map_cons, List.nodup_cons] at hnames
    rcases List.mem_cons.mp hmember with rfl | hrest
    · exact List.lookup_cons_self
    · have hne : (member.1 == first.1) = false := by
        refine beq_eq_false_iff_ne.mpr fun heq => hnames.1 ?_
        rw [← heq]
        exact List.mem_map_of_mem hrest
      rw [List.lookup_cons, hne]
      exact ih hnames.2 hrest

theorem mem_of_lookup {members : Members} {name : String} {value : Json}
    (h : members.lookup name = some value) : (name, value) ∈ members := by
  obtain ⟨before, behind, rfl, -⟩ := List.lookup_eq_some_iff.mp h
  exact List.mem_append_right before List.mem_cons_self

end Json

end ContractDrill
