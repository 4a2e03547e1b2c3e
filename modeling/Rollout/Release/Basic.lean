import Rollout.Json.Record

/-!
# Releases

A release is the record of a deployment: what was deployed, and under which version.
-/

namespace Rollout

/-- A recorded release. -/
structure Release where
  id : String := ""
  version : UInt64 := 0
deriving DecidableEq, Inhabited

namespace Release

/-- What a release is recorded with. -/
structure Draft where
  /-- The app that is released. -/
  appId : String := ""
  /-- The platform the release runs on. -/
  platformVersion : String := ""
  /-- The name of the rollout strategy in capitals. -/
  strategy : String := ""
  image : String := ""
  /-- The app configuration the release was made from. -/
  definition : Json := .null
deriving Inhabited

/-- The answer to recording a release. -/
structure Receipt where
  release : Release := {}
deriving DecidableEq, Inhabited

/-- The fields of `Release`. -/
def record : Record Release where
  blank := {}
  members := [
    .required "id" Codec.string (·.id) (fun v s => { s with id := v }),
    .required "version" Codec.uint64 (·.version) (fun v s => { s with version := v })]

/-- The fields of `Draft`. The definition stands inside one object, which leaves 126 of the 127
levels that a text may nest. -/
def Draft.record : Record Draft where
  blank := {}
  members := [
    .required "app_id" Codec.string (·.appId) (fun v s => { s with appId := v }),
    .required "platform_version" Codec.string (·.platformVersion)
      (fun v s => { s with platformVersion := v }),
    .required "strategy" Codec.string (·.strategy) (fun v s => { s with strategy := v }),
    .defaulted "image" Codec.string "" (·.image) (fun v s => { s with image := v }),
    .defaulted "definition" (Codec.document 126) .null (·.definition)
      (fun v s => { s with definition := v })]

/-- The fields of `Receipt`. -/
def Receipt.record : Record Receipt where
  blank := {}
  members := [
    .required "release" Release.record.codec (·.release) (fun v s => { s with release := v })]

end Release

end Rollout
