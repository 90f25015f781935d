/-!
The part that a slot plays in a request. A request names a slot by its role and
not by its window, and the answer does the same.
-/

namespace InventorySync

set_option autoImplicit false

inductive Role where
  | anvilInput
  | anvilMaterial
  | anvilResult
  | smithingTableInput
  | smithingTableMaterial
  | smithingTableResult
  | armor
  | levelEntity
  | beaconPayment
  | brewingStandInput
  | brewingStandResult
  | brewingStandFuel
  | combinedHotbarAndInventory
  | craftingInput
  | craftingOutputPreview
  | enchantingInput
  | enchantingMaterial
  | furnaceFuel
  | furnaceIngredient
  | furnaceResult
  | hotbar
  | inventory
  | shulkerBox
  | offhand
  | loomInput
  | loomDye
  | loomMaterial
  | loomResult
  | blastFurnaceIngredient
  | smokerIngredient
  | grindstoneInput
  | grindstoneAdditional
  | grindstoneResult
  | stonecutterInput
  | cartographyInput
  | cartographyAdditional
  | barrel
  | cursor
  | createdOutput
  | smithingTableTemplate
  | dynamic
  deriving DecidableEq, Repr, Inhabited

namespace Role

def all : List Role :=
  [.anvilInput, .anvilMaterial, .anvilResult, .smithingTableInput, .smithingTableMaterial,
   .smithingTableResult, .armor, .levelEntity, .beaconPayment, .brewingStandInput,
   .brewingStandResult, .brewingStandFuel, .combinedHotbarAndInventory, .craftingInput,
   .craftingOutputPreview, .enchantingInput, .enchantingMaterial, .furnaceFuel,
   .furnaceIngredient, .furnaceResult, .hotbar, .inventory, .shulkerBox, .offhand, .loomInput,
   .loomDye, .loomMaterial, .loomResult, .blastFurnaceIngredient, .smokerIngredient,
   .grindstoneInput, .grindstoneAdditional, .grindstoneResult, .stonecutterInput,
   .cartographyInput, .cartographyAdditional, .barrel, .cursor, .createdOutput,
   .smithingTableTemplate, .dynamic]

/-- The number of a role in a packet. -/
def number : Role → UInt8
  | .anvilInput => 0
  | .anvilMaterial => 1
  | .anvilResult => 2
  | .smithingTableInput => 3
  | .smithingTableMaterial => 4
  | .smithingTableResult => 5
  | .armor => 6
  | .levelEntity => 7
  | .beaconPayment => 8
  | .brewingStandInput => 9
  | .brewingStandResult => 10
  | .brewingStandFuel => 11
  | .combinedHotbarAndInventory => 12
  | .craftingInput => 13
  | .craftingOutputPreview => 14
  | .enchantingInput => 22
  | .enchantingMaterial => 23
  | .furnaceFuel => 24
  | .furnaceIngredient => 25
  | .furnaceResult => 26
  | .hotbar => 28
  | .inventory => 29
  | .shulkerBox => 30
  | .offhand => 34
  | .loomInput => 41
  | .loomDye => 42
  | .loomMaterial => 43
  | .loomResult => 44
  | .blastFurnaceIngredient => 45
  | .smokerIngredient => 46
  | .grindstoneInput => 50
  | .grindstoneAdditional => 51
  | .grindstoneResult => 52
  | .stonecutterInput => 53
  | .cartographyInput => 55
  | .cartographyAdditional => 56
  | .barrel => 58
  | .cursor => 59
  | .createdOutput => 60
  | .smithingTableTemplate => 61
  | .dynamic => 63

/-- The name of a role in a configuration file. -/
def name : Role → String
  | .anvilInput => "anvil_input"
  | .anvilMaterial => "anvil_material"
  | .anvilResult => "anvil_result"
  | .smithingTableInput => "smithing_table_input"
  | .smithingTableMaterial => "smithing_table_material"
  | .smithingTableResult => "smithing_table_result"
  | .armor => "armor"
  | .levelEntity => "level_entity"
  | .beaconPayment => "beacon_payment"
  | .brewingStandInput => "brewing_stand_input"
  | .brewingStandResult => "brewing_stand_result"
  | .brewingStandFuel => "brewing_stand_fuel"
  | .combinedHotbarAndInventory => "combined_hotbar_and_inventory"
  | .craftingInput => "crafting_input"
  | .craftingOutputPreview => "crafting_output_preview"
  | .enchantingInput => "enchanting_input"
  | .enchantingMaterial => "enchanting_material"
  | .furnaceFuel => "furnace_fuel"
  | .furnaceIngredient => "furnace_ingredient"
  | .furnaceResult => "furnace_result"
  | .hotbar => "hotbar"
  | .inventory => "inventory"
  | .shulkerBox => "shulker_box"
  | .offhand => "offhand"
  | .loomInput => "loom_input"
  | .loomDye => "loom_dye"
  | .loomMaterial => "loom_material"
  | .loomResult => "loom_result"
  | .blastFurnaceIngredient => "blast_furnace_ingredient"
  | .smokerIngredient => "smoker_ingredient"
  | .grindstoneInput => "grindstone_input"
  | .grindstoneAdditional => "grindstone_additional"
  | .grindstoneResult => "grindstone_result"
  | .stonecutterInput => "stonecutter_input"
  | .cartographyInput => "cartography_input"
  | .cartographyAdditional => "cartography_additional"
  | .barrel => "barrel"
  | .cursor => "cursor"
  | .createdOutput => "created_output"
  | .smithingTableTemplate => "smithing_table_template"
  | .dynamic => "dynamic"

def ofNumber? (number : UInt8) : Option Role := all.find? fun role => role.number = number

def ofName? (name : String) : Option Role := all.find? fun role => role.name = name

theorem mem_all (role : Role) : role ∈ all := by
  cases role <;> decide

theorem ofNumber_number (role : Role) : ofNumber? role.number = some role := by
  cases role <;> rfl

theorem number_injective {first second : Role} (same : first.number = second.number) :
    first = second := by
  have found := ofNumber_number first
  rw [same, ofNumber_number second] at found
  exact (Option.some.inj found).symm

end Role

end InventorySync
