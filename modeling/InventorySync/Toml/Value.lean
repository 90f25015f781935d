/-!
The values of a settings file in TOML. Fractional numbers and moments in time
are recognised, but no setting takes one, so they are not evaluated.
-/

namespace InventorySync.Toml

set_option autoImplicit false

inductive Value where
  | string (value : String)
  | integer (value : Int)
  | boolean (value : Bool)
  | float
  | moment
  | array (values : List Value)
  | table (entries : List (String × Value))
  deriving Repr, Inhabited

abbrev Table := List (String × Value)

/-- Whether a value is an array or a table with nothing in it. -/
def Value.isEmptyContainer : Value → Bool
  | .array values => values.isEmpty
  | .table entries => entries.isEmpty
  | _ => false

end InventorySync.Toml
