/-
# Tables as they are declared

A declaration gives every column a number of characters, and a row fits the table if each
of its values has no more than its column takes.
-/

import Mathlib.Data.List.Defs

namespace ServiceBroker
namespace Sql

/-- A table as it is declared: its name, and its columns, each with the number of characters that
it takes. -/
structure Declared where
  name : String
  columns : List (String × Nat)
deriving DecidableEq, Repr

namespace Declared

/-- The statement that declares a table. -/
def createText (table : Declared) : String :=
  let column (c : String × Nat) : String := c.1 ++ " VARCHAR(" ++ toString c.2 ++ ")"
  "CREATE TABLE " ++ table.name ++ (" (" ++ ", ".intercalate (table.columns.map column) ++ ")")

/-- The statement that inserts a row, with the places that its values are bound to. -/
def insertText (table : Declared) (places : List String) : String :=
  "INSERT INTO " ++ table.name ++ (" (" ++ ", ".intercalate (table.columns.map (·.1)) ++
    ") VALUES (" ++ ", ".intercalate places ++ ")")

/-- A row fits: there is a value for each column, of no more characters than it takes. -/
def Takes (table : Declared) (row : List String) : Prop :=
  List.Forall₂ (fun column value => value.length ≤ column.2) table.columns row

end Declared

end Sql
end ServiceBroker
