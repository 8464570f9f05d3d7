import KrakenMare.Lib.Dict
import KrakenMare.Schema.Uuid
import Mathlib.Data.Rat.Defs

/-!
# The Avro records

Agents, framework and fan-in exchange Avro records, whose schemas are the protocols `core.avdl`,
`message-agent.avdl` and `message-manager.avdl` of `config-schemaregistry/`.  This module is their
Lean form, record by record.

**Fields.**  Every modelled record has all the fields its schema gives it, in the schema's order.
A field whose type is a union with `null` is an `Option`, an `array` is a list, a `map` is a
`Dict`, and a `string` with the logical type `uuid` is a `UUID`.  Two fields which the schemas do
not let be `null` are `Option`s nevertheless: those of `SensorUuids`, because the framework fills
that record from Java references.

**Numbers.**  `Number` stands for whatever a Python agent may put into an Avro `float` field, that
is a rational, an infinity or NaN.  The wire does not carry every number (see `MessageSerializer`),
so `Message.mapFloat` names the float fields of every record once, and what the wire does to a
message is `mapFloat` of what it does to a number.

**Messages.**  `Message` has one constructor for each record that travels as a message of its own.
The records of the schemas that no modelled function builds or reads (`EventMeasurement`,
`SendEvents`, `TimeSeriesMeasurement`, `SendTimeSeries`, `CollectionManagement` and the other
records of the management protocol) are left out.
-/

namespace KrakenMare

open Lib

/-- A Python number or an Avro `float`: a rational, an infinity or NaN. -/
inductive Number
  | finite (q : ℚ)
  | infinity (negative : Bool)
  | nan
deriving DecidableEq

namespace Number

/-- A natural number as a Python number.  The counter sensors and the sizes of inventories are made
of these. -/
def ofNat (n : ℕ) : Number := finite n

/-- Python's `int(x)`: truncation towards zero.  `none` where it raises, a `ValueError` on NaN
and an `OverflowError` on an infinity. -/
def int? : Number → Option ℤ
  | finite q => some (q.num.tdiv q.den)
  | infinity _ => none
  | nan => none

@[simp] lemma int?_ofNat (n : ℕ) : (ofNat n).int? = some (n : ℤ) := by
  simp [ofNat, int?]

end Number

/-! ## `core.avdl` -/

/-- One sensor of a device, with its identity, the meta-data of its readings and its collection
frequency.  An agent makes it with no uuid, and the framework puts one in. -/
structure Sensor where
  uuid : Option UUID
  id : String
  name : String
  collectionFrequencyMin : Option Number
  collectionFrequencyMax : Option Number
  collectionFrequencyDefault : Option Number
  measuringAccuracy : Option String
  unit : Option String
  type : Option String
  valueRangeMin : Option Number
  valueRangeMax : Option Number
  changeFrequency : Option Number
  currentCollectionFrequency : Option Number
  storageTime : Option ℤ
deriving DecidableEq

/-- A sensor of which only the id is known: it has no UUID before the framework gives it one, and
the optional fields of the schema are `null`. -/
def plainSensor (id : String) : Sensor :=
  ⟨none, id, id, none, none, none, none, none, none, none, none, none, none, none⟩

/-- A device and its sensors.  `id` is the name the agent gives it, `uuid` the one it gets from the
framework, and a response shows the second under the first. -/
structure Device where
  uuid : Option UUID
  id : String
  name : String
  type : String
  location : String
  sensors : List Sensor
deriving DecidableEq

/-- What the framework stores about an agent: the number and the UUID it gave it, the uid and the
name it registered with, and the devices of its last device list. -/
structure Agent where
  id : ℤ
  uid : String
  uuid : Option UUID
  name : String
  devices : List Device
deriving DecidableEq

/-! ## `message-agent.avdl` -/

/-- What an agent publishes to make itself known.  The framework looks at `uid` and `name` only. -/
structure RegisterRequest where
  uid : String
  type : String
  name : String
  description : String
  useSensorTemplate : Bool
deriving DecidableEq

/-- What an agent publishes once it has a UUID: the devices it has found, none of which has a UUID
yet. -/
structure DeviceList where
  uuid : UUID
  devices : List Device
deriving DecidableEq

/-- What an agent publishes when it leaves: its UUID alone. -/
structure DeregisterRequest where
  uuid : UUID
deriving DecidableEq

/-- One sample of one sensor.  This is also the record that the fan-in puts into Kafka. -/
structure SendTimeSeriesDruid where
  timestamp : ℤ
  sensorUuid : UUID
  sensorValue : Number
deriving DecidableEq

/-- A batch of samples, which an agent publishes as one MQTT message. -/
structure SendTimeSeriesDruidArray where
  tripletBatch : List SendTimeSeriesDruid
deriving DecidableEq

/-! ## `message-manager.avdl` -/

/-- The framework's answer to a registration.  The schema means `status` for success or error and
`topics` for the topics to send data on; the framework always fills in true and the empty map. -/
structure RegisterResponse where
  uid : String
  status : Bool
  message : String
  uuid : UUID
  topics : Dict String String
deriving DecidableEq

/-- The UUIDs of one device and of its sensors, by sensor id.  They are `Option`s because the
framework fills the record from `getUuid()` references. -/
structure SensorUuids where
  uuid : Option UUID
  sensorUuids : Dict String (Option UUID)
deriving DecidableEq

/-- The framework's answer to a device list: the UUIDs of the devices and of their sensors, each
under the id that the agent sent. -/
structure DeviceListResponse where
  uuid : UUID
  deviceUuids : Dict String SensorUuids
deriving DecidableEq

/-- The framework's answer to a deregistration; `success` is whether an agent was deleted. -/
structure DeregisterResponse where
  agentUuid : UUID
  success : Bool
deriving DecidableEq

/-! ## Messages

One constructor for each record that travels as a message of its own; the constructor plays the
part of the schema id in front of the payload.
-/

/-- A record that travels as a message of its own, on MQTT or on Kafka. -/
inductive Message
  | registerRequest (m : RegisterRequest)
  | deviceList (m : DeviceList)
  | deregisterRequest (m : DeregisterRequest)
  | sendTimeSeriesDruid (m : SendTimeSeriesDruid)
  | sendTimeSeriesDruidArray (m : SendTimeSeriesDruidArray)
  | registerResponse (m : RegisterResponse)
  | deviceListResponse (m : DeviceListResponse)
  | deregisterResponse (m : DeregisterResponse)
  | agent (m : Agent)
deriving DecidableEq

section
variable (f : Number → Number)

/-- A sensor with `f` applied to each of its seven float fields.  `storageTime` is an integer. -/
def Sensor.mapFloat (s : Sensor) : Sensor :=
  { s with
    collectionFrequencyMin := s.collectionFrequencyMin.map f
    collectionFrequencyMax := s.collectionFrequencyMax.map f
    collectionFrequencyDefault := s.collectionFrequencyDefault.map f
    valueRangeMin := s.valueRangeMin.map f
    valueRangeMax := s.valueRangeMax.map f
    changeFrequency := s.changeFrequency.map f
    currentCollectionFrequency := s.currentCollectionFrequency.map f }

/-- A device with `f` applied to the float fields of its sensors; its own fields are texts and a
UUID. -/
def Device.mapFloat (d : Device) : Device :=
  { d with sensors := d.sensors.map (Sensor.mapFloat f) }

/-- An agent record with `f` applied to the float fields of its devices. -/
def Agent.mapFloat (a : Agent) : Agent :=
  { a with devices := a.devices.map (Device.mapFloat f) }

/-- A sample with `f` applied to its value; its time and its sensor are no floats. -/
def SendTimeSeriesDruid.mapFloat (r : SendTimeSeriesDruid) : SendTimeSeriesDruid :=
  { r with sensorValue := f r.sensorValue }

/-- A message with `f` applied to its float fields.  The records of registration and deregistration
have none, nor has the answer to a device list. -/
def Message.mapFloat : Message → Message
  | .deviceList m => .deviceList { m with devices := m.devices.map (Device.mapFloat f) }
  | .sendTimeSeriesDruid m => .sendTimeSeriesDruid (m.mapFloat f)
  | .sendTimeSeriesDruidArray m =>
      .sendTimeSeriesDruidArray ⟨m.tripletBatch.map (SendTimeSeriesDruid.mapFloat f)⟩
  | .agent m => .agent (m.mapFloat f)
  | m => m

end

end KrakenMare
