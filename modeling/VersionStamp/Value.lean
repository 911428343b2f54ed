import VersionStamp.Decimal.Shortest
import VersionStamp.Text.Quoted

/-! Values without a fixed type: what a configuration file holds, and what is offered as a counter
before it is checked. -/

namespace VersionStamp

inductive Value
  | null
  | bool (b : Bool)
  | int (i : Int)
  | float (f : Float)
  | text (s : String)
  /-- A calendar date, as it was written. -/
  | date (written : String)
  | list (items : List Value)
  /-- Entries in the order in which their keys first came up. -/
  | mapping (entries : List (String × Value))
  deriving Inhabited

namespace Value

/-- Empty and zero values, nothing and `false` do not count as set. -/
def isSet : Value → Bool
  | .null => false
  | .bool b => b
  | .int i => i != 0
  | .float f => f != 0
  | .text s => !s.isEmpty
  | .date _ => true
  | .list items => !items.isEmpty
  | .mapping entries => !entries.isEmpty

def commaSeparated : List (List Char) → List Char
  | [] => []
  | [item] => item
  | item :: others => item ++ ',' :: ' ' :: commaSeparated others

mutual

/-- A value as messages show it. An integer that is too large to be written spoils the whole. -/
def shown : Value → Except Text.NumeralError (List Char)
  | .null => .ok "None".toList
  | .bool true => .ok "True".toList
  | .bool false => .ok "False".toList
  | .int i => Text.writeInt i
  | .float f => .ok (Decimal.floatText f)
  | .text s => .ok (Text.quoted s.toList)
  | .date written => .ok written.toList
  | .list items => do
    return '[' :: commaSeparated (← shownItems items) ++ [']']
  | .mapping entries => do
    return '\x7b' :: commaSeparated (← shownEntries entries) ++ ['\x7d']

def shownItems : List Value → Except Text.NumeralError (List (List Char))
  | [] => .ok []
  | v :: rest => do
    let item ← v.shown
    return item :: (← shownItems rest)

def shownEntries : List (String × Value) → Except Text.NumeralError (List (List Char))
  | [] => .ok []
  | (key, v) :: rest => do
    let item ← v.shown
    return (Text.quoted key.toList ++ ':' :: ' ' :: item) :: (← shownEntries rest)

end

end Value

def lookup? (key : String) : List (String × Value) → Option Value
  | [] => none
  | (k, v) :: rest => if k = key then some v else lookup? key rest

/-- Sets a key: in its place if it is there, at the end if not. -/
def setKey (key : String) (value : Value) : List (String × Value) → List (String × Value)
  | [] => [(key, value)]
  | (k, v) :: rest =>
    if k = key then (key, value) :: rest else (k, v) :: setKey key value rest

theorem lookup?_setKey_self (key : String) (value : Value) (entries : List (String × Value)) :
    lookup? key (setKey key value entries) = some value := by
  induction entries with
  | nil => simp [setKey, lookup?]
  | cons e rest ih =>
    obtain ⟨k, v⟩ := e
    by_cases h : k = key <;> simp [setKey, lookup?, h, ih]

theorem lookup?_setKey_of_ne {key other : String} (value : Value)
    (entries : List (String × Value)) (h : other ≠ key) :
    lookup? other (setKey key value entries) = lookup? other entries := by
  induction entries with
  | nil => simp [setKey, lookup?, h.symm]
  | cons e rest ih =>
    obtain ⟨k, v⟩ := e
    by_cases hk : k = key
    · subst hk; simp [setKey, lookup?, h.symm]
    · simp only [setKey, hk, if_false, lookup?, ih]

end VersionStamp
