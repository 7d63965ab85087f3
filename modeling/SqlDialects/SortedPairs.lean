/-!
# Named values in order of their names

A `SortedPairs` holds at most one value for each name and lists them by ascending name, compared
code point by code point.
-/

set_option autoImplicit false

namespace SqlDialects

/-- Pairs of a name and a value, by ascending name. -/
abbrev SortedPairs (α : Type) := List (String × α)

namespace SortedPairs

variable {α : Type}

/-- Sets the value of a name. -/
def insert (name : String) (value : α) : SortedPairs α → SortedPairs α
  | [] => [(name, value)]
  | (other, old) :: rest =>
    if name = other then (name, value) :: rest
    else if name < other then (name, value) :: (other, old) :: rest
    else (other, old) :: insert name value rest

/-- The value of a name. -/
def value? (name : String) (pairs : SortedPairs α) : Option α :=
  (List.find? (fun pair => pair.1 = name) pairs).map Prod.snd

/-- Setting a name changes the value of that name and of no other. -/
theorem value?_insert (name other : String) (value : α) (pairs : SortedPairs α) :
    value? other (insert name value pairs) =
      if other = name then some value else value? other pairs := by
  induction pairs with
  | nil => simp [insert, value?, eq_comm]
  | cons pair rest ih => simp only [insert]; split <;> grind [value?]

/-- The pairs of a list, of which later ones replace earlier ones of the same name. -/
def ofList (pairs : List (String × α)) : SortedPairs α :=
  pairs.foldl (fun sorted pair => insert pair.1 pair.2 sorted) []

end SortedPairs

end SqlDialects
