import Rollout.Volume.Basic

/-!
# Pools of free volumes

The volumes that machines created during a deployment may be given. Taking a volume removes it,
so that no volume is given twice.
-/

namespace Rollout.Volume

/-- The volumes that are still free, in the order they were listed. -/
structure Pool where
  volumes : List Volume := []
deriving DecidableEq, Inhabited

namespace Pool

/-- The free volumes among those listed. -/
def ofList (volumes : List Volume) : Pool := ⟨volumes.filter isUnattached⟩

/-- The number of free volumes. -/
def size (p : Pool) : Nat := p.volumes.length

/-- Whether no volume is free. -/
def isEmpty (p : Pool) : Bool := p.volumes.isEmpty

/-- Whether a volume has a name and a region. -/
def fits (name region : String) (v : Volume) : Bool := v.name == name && v.region == region

/-- Takes the first free volume of a name in a region. -/
def take? (p : Pool) (name region : String) : Option (Volume × Pool) :=
  (p.volumes.find? (fits name region)).map (·, ⟨p.volumes.eraseP (fits name region)⟩)

end Pool

end Rollout.Volume
