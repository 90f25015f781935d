import InventorySync.Wire.Basic

/-!
Positions of blocks in the world.
-/

namespace InventorySync

set_option autoImplicit false

structure BlockPos where
  x : Int32
  y : Int32
  z : Int32
  deriving DecidableEq, Repr, Inhabited

namespace BlockPos

def text (position : BlockPos) : String :=
  s!"({position.x.toInt}, {position.y.toInt}, {position.z.toInt})"

/-- The height is written as an unsigned number, so one below zero takes all five
groups. -/
def encode (position : BlockPos) : Bytes :=
  Wire.encodeVarInt32 position.x ++ Wire.encodeVarUInt32 position.y.toUInt32 ++
    Wire.encodeVarInt32 position.z

def read : Wire.Reader BlockPos := do
  let x ← Wire.readVarInt32
  let y ← Wire.readVarUInt32
  let z ← Wire.readVarInt32
  return ⟨x, y.toInt32, z⟩

end BlockPos

end InventorySync
