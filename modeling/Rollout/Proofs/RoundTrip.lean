import Rollout.App.Config.Codec
import Rollout.Http.Problem
import Rollout.Lease.Grant
import Rollout.Machine.Basic
import Rollout.Proofs.Records
import Rollout.Release.Basic
import Rollout.Settings
import Rollout.Strategy
import Rollout.Volume.Basic

/-!
# What is written is read back

Everything that is sent, received or stored as JSON is one of a few models. Each field of a model
restores what it had written, so a model is read back as it was written. Three models are special:
whether a machine has to be replaced is not part of what is sent for a launch, the access token is
never written, and the definition in a release is any document at all, so that the text of one
could nest too deep to be read.

## Main statements

- `App.GroupCheck.record_lawful`: a check of a group, which shares its object with its group.
- `Release.Draft.record_restores`: a release whose definition is not nested too deep.
- `Model.roundTrip`: every model that leaves its definition room is read back as it was written.
- `Model.definition_unread`: a release whose definition is nested too deep is not read back.
-/

namespace Rollout

/-- A dictionary is empty just if it is the empty one. -/
@[simp] theorem Dict.isEmpty_iff {α : Type} {d : Dict α} : d.isEmpty = true ↔ d = {} := by
  constructor
  · intro h
    exact Dict.ext (List.isEmpty_iff.mp h)
  · rintro rfl
    rfl

attribute [simp] Timestamp.codec_lawful

namespace Machine

/-- The exit of a machine comes back as it was written. -/
@[simp] theorem Exit.record_lawful : Exit.record.codec.Lawful :=
  Record.lawful (by decide) fun s => by simp [Record.Restores, Exit.record]

/-- So does what the monitor of a machine has seen of its exit. -/
@[simp] theorem Monitor.record_lawful : Monitor.record.codec.Lawful :=
  Record.lawful (by decide) fun s => by simp [Record.Restores, Monitor.record]

/-- So does what an event says beyond its kind. -/
@[simp] theorem EventDetail.record_lawful : EventDetail.record.codec.Lawful :=
  Record.lawful (by decide) fun s => by simp [Record.Restores, EventDetail.record]

/-- An event comes back with its kind, its time and its details. -/
@[simp] theorem Event.record_lawful : Event.record.codec.Lawful :=
  Record.lawful (by decide) fun s => by simp [Record.Restores, Event.record]

/-- The commands of a machine come back, whether they are given or not. -/
@[simp] theorem Init.record_lawful : Init.record.codec.Lawful :=
  Record.lawful (by decide) fun s => by simp [Record.Restores, Init.record]

/-- A port comes back with its handlers. -/
@[simp] theorem Port.record_lawful : Port.record.codec.Lawful :=
  Record.lawful (by decide) fun s => by simp [Record.Restores, Port.record]

/-- A service comes back with its ports and its checks. -/
@[simp] theorem Service.record_lawful : Service.record.codec.Lawful :=
  Record.lawful (by decide) fun s => by simp [Record.Restores, Service.record]

/-- A check comes back, whatever part of it is given. -/
@[simp] theorem Check.record_lawful : Check.record.codec.Lawful :=
  Record.lawful (by decide) fun s => by simp [Record.Restores, Check.record]

/-- A mount comes back, and with it how it may grow. -/
@[simp] theorem Mount.record_lawful : Mount.record.codec.Lawful :=
  Record.lawful (by decide) fun s => by simp [Record.Restores, Mount.record]

/-- Every policy is read from its own word. -/
@[simp] theorem RestartPolicy.codec_lawful : RestartPolicy.codec.Lawful :=
  Codec.named_lawful fun p => by cases p <;> decide

/-- How a machine is restarted comes back. -/
@[simp] theorem Restart.record_lawful : Restart.record.codec.Lawful :=
  Record.lawful (by decide) fun s => by simp [Record.Restores, Restart.record]

/-- The size of a machine comes back. -/
@[simp] theorem Guest.record_lawful : Guest.record.codec.Lawful :=
  Record.lawful (by decide) fun s => by simp [Record.Restores, Guest.record]

/-- Where its metrics are comes back. -/
@[simp] theorem Metrics.record_lawful : Metrics.record.codec.Lawful :=
  Record.lawful (by decide) fun s => by simp [Record.Restores, Metrics.record]

/-- A configuration comes back if all its parts do. -/
@[simp] theorem Config.record_lawful : Config.record.codec.Lawful :=
  Record.lawful (by decide) fun s => by simp [Record.Restores, Config.record]

/-- Every state of a check is read from its own word. -/
@[simp] theorem CheckState.codec_lawful : CheckState.codec.Lawful :=
  Codec.named_lawful fun state => by cases state <;> decide

/-- The report of a check comes back. -/
@[simp] theorem CheckReport.record_lawful : CheckReport.record.codec.Lawful :=
  Record.lawful (by decide) fun s => by simp [Record.Restores, CheckReport.record]

/-- The unknown state is read from its word as from any other word that names no state. -/
@[simp] theorem State.codec_lawful : State.codec.Lawful :=
  Codec.named_lawful fun state => by cases state <;> decide

/-- A machine comes back with its configuration, its events and its reports. -/
@[simp] theorem record_lawful : record.codec.Lawful :=
  Record.lawful (by decide) fun s => by simp [Record.Restores, record]

end Machine

/-- A request comes back, except that it does not say whether it replaces. -/
theorem LaunchInput.record_restores (s : LaunchInput) :
    LaunchInput.record.Restores s { s with requiresReplacement := false } := by
  simp [Record.Restores, LaunchInput.record]

namespace Lease

/-- A request for a lease comes back. -/
@[simp] theorem Request.record_lawful : Request.record.codec.Lawful :=
  Record.lawful (by decide) fun s => by simp [Record.Restores, Request.record]

/-- The grant in a reply comes back. -/
@[simp] theorem Grant.record_lawful : Grant.record.codec.Lawful :=
  Record.lawful (by decide) fun s => by simp [Record.Restores, Grant.record]

/-- The reply comes back with it. -/
@[simp] theorem Reply.record_lawful : Reply.record.codec.Lawful :=
  Record.lawful (by decide) fun s => by simp [Record.Restores, Reply.record]

end Lease

/-- A volume comes back with its place and its machine. -/
theorem Volume.record_lawful : Volume.record.codec.Lawful :=
  Record.lawful (by decide) fun s => by simp [Record.Restores, Volume.record]

/-- The body of an error comes back. -/
theorem Problem.record_lawful : Problem.record.codec.Lawful :=
  Record.lawful (by decide) fun s => by simp [Record.Restores, Problem.record]

namespace App

/-- How an app is deployed comes back. -/
@[simp] theorem DeploySection.record_lawful : DeploySection.record.codec.Lawful :=
  Record.lawful (by decide) fun s => by simp [Record.Restores, DeploySection.record]

/-- The check of a service of an app comes back. -/
@[simp] theorem ServiceCheck.record_lawful : ServiceCheck.record.codec.Lawful :=
  Record.lawful (by decide) fun s => by simp [Record.Restores, ServiceCheck.record]

/-- So does its web service. -/
@[simp] theorem HttpService.record_lawful : HttpService.record.codec.Lawful :=
  Record.lawful (by decide) fun s => by simp [Record.Restores, HttpService.record]

/-- So do its other services. -/
@[simp] theorem ServiceSection.record_lawful : ServiceSection.record.codec.Lawful :=
  Record.lawful (by decide) fun s => by simp [Record.Restores, ServiceSection.record]

/-- So does its mount. -/
@[simp] theorem MountSection.record_lawful : MountSection.record.codec.Lawful :=
  Record.lawful (by decide) fun s => by simp [Record.Restores, MountSection.record]

namespace GroupCheck

/-- The fields of the check inside restore the check. -/
theorem inner_restores {ms : List (Member Machine.Check)} {c' : Machine.Check} {g t : GroupCheck}
    (h : ms.foldlM (fun c m => m.read (m.write g.check) c) t.check = some c') :
    (ms.map inner).foldlM (fun t m => m.read (m.write g) t) t = some { t with check := c' } := by
  -- By induction on the fields of the check; each is read into the check alone.
  induction ms generalizing t with
  | nil =>
    obtain rfl := Option.some.inj h
    rfl
  | cons m ms ih =>
    rw [List.foldlM_cons] at h
    obtain ⟨c, hread, hrest⟩ := Option.bind_eq_some_iff.mp h
    rw [List.map_cons, List.foldlM_cons]
    have hinner : (inner m).read ((inner m).write g) t = some { t with check := c } := by
      show (m.read (m.write g.check) t.check).map _ = _
      rw [hread]
      rfl
    rw [hinner]
    exact ih (t := { t with check := c }) hrest

/-- A check of a group comes back with its groups. -/
theorem record_restores (g : GroupCheck) : record.Restores g g := by
  have hcheck : Machine.Check.record.Restores g.check g.check := by
    simp [Record.Restores, Machine.Check.record]
  unfold Record.Restores record
  rw [List.foldlM_append, inner_restores (t := {}) hcheck]
  simp

/-- What is written for a check is plain. -/
theorem written_plain (g : GroupCheck) : ∀ m ∈ record.members, ∀ j ∈ m.write g,
    j.isSound = true ∧ j.depth ≤ 124 := by
  have htext : Codec.string.PlainTo 124 := Codec.string_plain.mono (by decide)
  have htexts : Codec.string.list.PlainTo 124 :=
    (Codec.list_plain Codec.string_plain).mono (by decide)
  have hport : Codec.uint16.PlainTo 124 := Codec.within_plain.mono (by decide)
  have htime : Codec.uint64.PlainTo 124 := Codec.within_plain.mono (by decide)
  -- The check inside has texts, numbers and a list of texts at most.
  have hcheck : ∀ m ∈ Machine.Check.record.members, ∀ j ∈ m.write g.check,
      j.isSound = true ∧ j.depth ≤ 124 := by
    simp only [Machine.Check.record, List.forall_mem_cons]
    exact ⟨fun j => Member.optional_plain htext, fun j => Member.optional_plain hport,
      fun j => Member.optional_plain htime, fun j => Member.optional_plain htime,
      fun j => Member.optional_plain htime, fun j => Member.optional_plain htext,
      fun j => Member.optional_plain htext, by simp⟩
  intro m hm
  rcases List.mem_append.mp hm with hm | hm
  · obtain ⟨inside, hinside, rfl⟩ := List.mem_map.mp hm
    exact hcheck inside hinside
  · obtain rfl := List.mem_singleton.mp hm
    exact fun j => Member.defaulted_plain htexts

/-- So its codec is lawful, though it shares its object. -/
@[simp] theorem record_lawful : (record.sharedCodec 124).Lawful :=
  Record.shared_lawful (by decide) record_restores written_plain

end GroupCheck

/-- The configuration of an app comes back if all its sections do. -/
@[simp] theorem Config.record_lawful : Config.record.codec.Lawful :=
  Record.lawful (by decide) fun s => by simp [Record.Restores, Config.record]

end App

/-- Every level is read from its own word. -/
@[simp] theorem LogLevel.codec_lawful : LogLevel.codec.Lawful := by
  intro l
  cases l <;> decide

/-- Where the services are comes back. -/
@[simp] theorem Backend.record_lawful : Backend.record.codec.Lawful :=
  Record.lawful (by decide) fun s => by simp [Record.Restores, Backend.record]

/-- The settings come back without the token. -/
theorem Settings.record_restores (s : Settings) :
    Settings.record.Restores s { s with accessToken := none } := by
  simp [Record.Restores, Settings.record]

/-- Every strategy is read from its own word. -/
theorem Strategy.codec_lawful : Strategy.codec.Lawful :=
  Codec.named_lawful fun s => by cases s <;> decide

namespace Release

/-- A release comes back. -/
@[simp] theorem record_lawful : record.codec.Lawful :=
  Record.lawful (by decide) fun s => by simp [Record.Restores, record]

/-- What is answered to a record comes back. -/
theorem Receipt.record_lawful : Receipt.record.codec.Lawful :=
  Record.lawful (by decide) fun s => by simp [Record.Restores, Receipt.record]

/-- Whether the definition is a document and leaves room for the object around it. -/
structure Draft.HasRoom (d : Draft) : Prop where
  isDocument : d.definition.IsDocument
  depth_le : d.definition.depth ≤ 126

/-- What is recorded comes back if its definition leaves room. -/
theorem Draft.record_restores {d : Draft} (h : d.HasRoom) : Draft.record.Restores d d := by
  simp [Record.Restores, Draft.record, Member.defaulted_restores_of,
    Codec.document_restores h.isDocument h.depth_le]

/-- A release whose definition leaves no room is written, but not read. -/
theorem Draft.decode_encode_eq_none {d : Draft} (h : 126 < d.definition.depth) :
    Draft.record.codec.decode (Draft.record.codec.encode d) = none := by
  refine (Record.decodeMembers_written (r := Draft.record) (by decide) d).trans ?_
  -- The one field that is not read spoils the record.
  have hread : (Codec.document 126).decode ((Codec.document 126).encode d.definition) = none :=
    Codec.document_decode_eq_none h
  simp [Draft.record, Member.defaulted_unread hread]

/-- The definition of a release that was read leaves room for the object around it. -/
theorem Draft.hasRoom_of_decode {j : Json} {d : Draft}
    (h : Draft.record.codec.decode j = some d) : d.HasRoom := by
  refine Record.decode_keeps (P := Draft.HasRoom) ⟨⟨rfl, rfl⟩, by decide⟩ ?_ h
  simp only [Draft.record, List.forall_mem_cons]
  -- Of the five fields only the definition has a bearing on the room.
  refine ⟨?_, ?_, ?_, ?_, ?_, by simp⟩
  all_goals intro x d d' hd hread
  · obtain ⟨_, rfl⟩ := Member.read_required hread
    exact ⟨hd.isDocument, hd.depth_le⟩
  · obtain ⟨_, rfl⟩ := Member.read_required hread
    exact ⟨hd.isDocument, hd.depth_le⟩
  · obtain ⟨_, rfl⟩ := Member.read_required hread
    exact ⟨hd.isDocument, hd.depth_le⟩
  · obtain ⟨_, rfl, -⟩ := Member.read_defaulted hread
    exact ⟨hd.isDocument, hd.depth_le⟩
  · obtain ⟨definition, rfl, rfl | ⟨j, hj⟩⟩ := Member.read_defaulted hread
    · exact ⟨⟨rfl, rfl⟩, Nat.zero_le _⟩
    · have hroom := Codec.document_decode hj
      exact ⟨hroom.1, hroom.2⟩

end Release

/-! ## All models -/

/-- What is sent, received or stored as JSON. -/
inductive Model where
  | machine
  | machineConfig
  | event
  | checkReport
  | launchInput
  | leaseReply
  | leaseRequest
  | volume
  | problem
  | app
  | settings
  | draft
  | receipt
  | strategy
deriving DecidableEq

namespace Model

/-- The values of a model. -/
abbrev Value : Model → Type
  | machine => Machine
  | machineConfig => Machine.Config
  | event => Machine.Event
  | checkReport => Machine.CheckReport
  | launchInput => LaunchInput
  | leaseReply => Lease.Reply
  | leaseRequest => Lease.Request
  | volume => Volume
  | problem => Problem
  | app => App.Config
  | settings => Settings
  | draft => Release.Draft
  | receipt => Release.Receipt
  | strategy => Strategy

/-- How the values of a model are written and read. -/
def codec : (m : Model) → Codec m.Value
  | machine => Machine.record.codec
  | machineConfig => Machine.Config.record.codec
  | event => Machine.Event.record.codec
  | checkReport => Machine.CheckReport.record.codec
  | launchInput => LaunchInput.record.codec
  | leaseReply => Lease.Reply.record.codec
  | leaseRequest => Lease.Request.record.codec
  | volume => Volume.record.codec
  | problem => Problem.record.codec
  | app => App.Config.record.codec
  | settings => Settings.record.codec
  | draft => Release.Draft.record.codec
  | receipt => Release.Receipt.record.codec
  | strategy => Strategy.codec

/-- Whether a text can hold a value: the definition in a release has to be a document, and may be
nested 126 deep inside the object of the release. -/
def Fits : (m : Model) → m.Value → Prop
  | draft, d => d.HasRoom
  | _, _ => True

/-- What comes back of a value: everything except whether a machine has to be replaced and the
access token. -/
def readBack : (m : Model) → m.Value → m.Value
  | launchInput, input => { input with requiresReplacement := false }
  | settings, s => { s with accessToken := none }
  | _, v => v

variable {m : Model} {v : m.Value} {j : Json}

/-- What is read fits a text again. -/
theorem fits_of_decode (h : m.codec.decode j = some v) : m.Fits v := by
  cases m with
  | draft => exact Release.Draft.hasRoom_of_decode h
  | _ => trivial

/-- A value that fits a text comes back. -/
theorem decode_encode (h : m.Fits v) : m.codec.decode (m.codec.encode v) = some (m.readBack v) := by
  -- All but the three special ones are restored as they were.
  cases m with
  | machine => exact Machine.record_lawful v
  | machineConfig => exact Machine.Config.record_lawful v
  | event => exact Machine.Event.record_lawful v
  | checkReport => exact Machine.CheckReport.record_lawful v
  | launchInput => exact Record.decode_encode (by decide) (LaunchInput.record_restores v)
  | leaseReply => exact Lease.Reply.record_lawful v
  | leaseRequest => exact Lease.Request.record_lawful v
  | volume => exact Volume.record_lawful v
  | problem => exact Problem.record_lawful v
  | app => exact App.Config.record_lawful v
  | settings => exact Record.decode_encode (by decide) (Settings.record_restores v)
  | draft => exact Record.decode_encode (by decide) (Release.Draft.record_restores h)
  | receipt => exact Release.Receipt.record_lawful v
  | strategy => exact Strategy.codec_lawful v

/-- What does not come back was not written. -/
theorem encode_readBack (m : Model) (v : m.Value) :
    m.codec.encode (m.readBack v) = m.codec.encode v := by
  cases m <;> rfl

/-- Every value that fits a text is read back as it was written, and whatever is read of a text can
be written and read again, which writes the same. -/
theorem roundTrip (m : Model) :
    (∀ v, m.Fits v → m.codec.decode (m.codec.encode v) = some (m.readBack v)) ∧
      ∀ j v, m.codec.decode j = some v →
        m.codec.decode (m.codec.encode v) = some (m.readBack v) ∧
          m.codec.encode (m.readBack v) = m.codec.encode v :=
  ⟨fun _ h => decode_encode h,
    fun _ v h => ⟨decode_encode (fits_of_decode h), encode_readBack m v⟩⟩

/-- A release whose definition takes all the room there is, and settings with an access token. -/
theorem roundTrip_full :
    (∃ d : Release.Draft, d.definition = Json.nested 126 ∧ draft.Fits d ∧
      draft.codec.decode (draft.codec.encode d) = some d) ∧
    ∃ s : Settings, settings.codec.decode (.object [("access_token", .string "secret")]) = some s ∧
      s.accessToken = some "secret" ∧
      settings.codec.decode (settings.codec.encode s) = some { s with accessToken := none } ∧
      settings.codec.encode { s with accessToken := none } = settings.codec.encode s := by
  constructor
  · have hfits : draft.Fits { definition := Json.nested 126 } :=
      ⟨Json.isDocument_nested 126, Nat.le_of_eq Json.depth_nested⟩
    exact ⟨{ definition := Json.nested 126 }, rfl, hfits, (roundTrip draft).1 _ hfits⟩
  · have hread : settings.codec.decode (.object [("access_token", .string "secret")]) =
        some ({ accessToken := some "secret" } : Settings) := rfl
    have hagain := (roundTrip settings).2 _ _ hread
    exact ⟨_, hread, rfl, hagain.1, hagain.2⟩

/-- A definition that takes one level more is a document, and is written, but not read. -/
theorem definition_unread :
    (Json.nested 127).IsDocument ∧
      draft.codec.decode (draft.codec.encode ({ definition := Json.nested 127 } : Release.Draft)) =
        none :=
  ⟨Json.isDocument_nested 127, Release.Draft.decode_encode_eq_none (by
    rw [Json.depth_nested]
    decide)⟩

end Model

end Rollout
