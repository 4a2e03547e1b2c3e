import Rollout.Json.Record

/-!
# Volumes

Persistent volumes as the control plane reports them.
-/

namespace Rollout

/-- A volume, attached to a machine or free. -/
structure Volume where
  id : String := ""
  name : String := ""
  region : String := ""
  state : String := ""
  sizeGb : UInt32 := 0
  /-- The machine that the volume is attached to. -/
  attachedMachineId : Option String := none
deriving DecidableEq, Inhabited

namespace Volume

/-- Whether a volume is gone or on its way. -/
def isLeaving (v : Volume) : Bool :=
  ["destroyed", "destroying", "pending_destroy"].contains v.state

/-- Whether the volume can be attached to a new machine. -/
def isUnattached (v : Volume) : Bool :=
  v.attachedMachineId.getD "" == "" && !v.isLeaving

/-- The fields of `Volume`. -/
def record : Record Volume where
  blank := {}
  members := [
    .required "id" Codec.string (·.id) (fun v s => { s with id := v }),
    .required "name" Codec.string (·.name) (fun v s => { s with name := v }),
    .required "region" Codec.string (·.region) (fun v s => { s with region := v }),
    .defaulted "state" Codec.string "" (·.state) (fun v s => { s with state := v }),
    .defaulted "size_gb" Codec.uint32 0 (·.sizeGb) (fun v s => { s with sizeGb := v }),
    .nullable "attached_machine_id" Codec.string (·.attachedMachineId)
      (fun v s => { s with attachedMachineId := v })]

end Volume

end Rollout
