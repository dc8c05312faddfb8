import AccountPortal.Number.Binary64

/-!
# Values

What a request, a row or an environment may hold: nothing, a flag, an integer of any size, a binary
number, text, a list, or a record of named values in the order they were given. Main definitions:
`Value`, `Fields.get?`, `Fields.put`.
-/

namespace AccountPortal

inductive Value where
  | null
  | flag (b : Bool)
  | int (n : Int)
  | number (x : Binary64)
  | text (s : String)
  | list (items : List Value)
  | record (fields : List (String × Value))
  deriving Inhabited

/-- Named entries in order, at most one for a name. -/
abbrev Fields (α : Type) := List (String × α)

namespace Fields

variable {α : Type}

def get? (fields : Fields α) (name : String) : Option α :=
  (fields.find? (·.1 == name)).map (·.2)

/-- Writes the entry where the name stands, or at the end. -/
def put (fields : Fields α) (name : String) (value : α) : Fields α :=
  match fields with
  | [] => [(name, value)]
  | (n, v) :: rest => if n == name then (n, value) :: rest else (n, v) :: put rest name value

/-- The entries of `later` put one after another. -/
def merge (fields later : Fields α) : Fields α :=
  later.foldl (fun acc e => acc.put e.1 e.2) fields

@[simp] theorem get?_nil (name : String) : get? ([] : Fields α) name = none := rfl

theorem get?_cons (n name : String) (v : α) (rest : Fields α) :
    get? ((n, v) :: rest) name = if n = name then some v else get? rest name := by
  by_cases h : n = name <;> simp [get?, h]

@[simp] theorem get?_put_self (fields : Fields α) (name : String) (value : α) :
    (fields.put name value).get? name = some value := by
  induction fields with
  | nil => simp [put, get?_cons]
  | cons e rest ih =>
    obtain ⟨n, v⟩ := e
    by_cases h : n = name <;> simp [put, get?_cons, h, ih]

theorem get?_put_of_ne (fields : Fields α) {name other : String} (value : α) (h : other ≠ name) :
    (fields.put name value).get? other = fields.get? other := by
  induction fields with
  | nil => simp [put, get?_cons, Ne.symm h]
  | cons e rest ih =>
    obtain ⟨n, v⟩ := e
    by_cases hn : n = name
    · subst hn; simp [put, get?_cons, Ne.symm h]
    · simp [put, get?_cons, hn, ih]

theorem get?_eq_none_iff {fields : Fields α} {name : String} :
    fields.get? name = none ↔ name ∉ fields.map Prod.fst := by
  rw [get?, Option.map_eq_none_iff, List.find?_eq_none, List.mem_map]
  constructor
  · rintro h ⟨e, he, rfl⟩
    exact h e he (beq_self_eq_true e.1)
  · intro h e he same
    exact h ⟨e, he, beq_iff_eq.mp same⟩

/-- Writing what is there changes nothing. -/
theorem put_eq_self {fields : Fields α} {name : String} {value : α}
    (h : fields.get? name = some value) : fields.put name value = fields := by
  induction fields with
  | nil => cases h
  | cons e rest ih =>
    obtain ⟨n, v⟩ := e
    rw [get?_cons] at h
    by_cases hn : n = name
    · rw [if_pos hn, Option.some.injEq] at h
      simp [put, hn, h]
    · rw [if_neg hn] at h
      simp [put, hn, ih h]

/-- A name that is new stands last. -/
theorem names_put (fields : Fields α) (name : String) (value : α) :
    (fields.put name value).map Prod.fst =
      if name ∈ fields.map Prod.fst then fields.map Prod.fst
      else fields.map Prod.fst ++ [name] := by
  induction fields with
  | nil => rfl
  | cons e rest ih =>
    obtain ⟨n, v⟩ := e
    by_cases hn : n = name
    · simp [put, hn]
    · have hm : ¬ name = n := fun h => hn h.symm
      simp only [put, beq_eq_false_iff_ne.mpr hn, Bool.false_eq_true, if_false, List.map_cons, ih,
        List.mem_cons, hm, false_or]
      split <;> rfl

end Fields

namespace Value

/-- The value under a name; nothing when there is no such name or no record. -/
def get (v : Value) (name : String) : Value :=
  match v with
  | .record fields => (Fields.get? fields name).getD .null
  | _ => .null

/-- False for nothing, a false flag, zero, and empty text, lists and records. -/
def truthy : Value → Bool
  | .null => false
  | .flag b => b
  | .int n => n != 0
  | .number x => !x.isZero
  | .text s => s != ""
  | .list items => !items.isEmpty
  | .record fields => !fields.isEmpty

def ofOption {α : Type} (f : α → Value) : Option α → Value
  | none => .null
  | some a => f a

end Value

end AccountPortal
