import KrakenMare.Agent.AgentCommon
import Mathlib.Algebra.Order.Field.Rat

/-!
# `IBswitchSimulator.send_data`: the records of one switch

`simulator/IBswitchSimulator.py`.  For each switch the simulator moves three of the seed counters
by random steps, builds one record for each entry of `ibmetrics`, and passes the list to
`mqtt_send_triplet_batch`.  With the batch counter enabled the records carry the agent's own UUID
and the count of batches on the current subtopic instead.  That count is read once for each list,
before any record of it is sent.

* `PerfQuery.advance` — the random steps, as a function of the three draws.  There is none for
  `PortXmitData`, which keeps the value of the seed file.
* `recordList` — the list of one switch.
* `sendSwitch` — one turn of the loop.

The loop over the switches is in `Simulator.DeviceMap`, with the maps that it looks things up in.
`none` is an exception that leaves `send_data`, a `KeyError` or an `IndexError`.
-/

namespace KrakenMare

open Lib

/-- `ibmetrics` in `send_data`, the metrics that are sent of each switch. -/
def ibmetrics : List String := ["SymbolErrorCounter", "PortXmitData"]

/-- The counters of a `<guid>.perfquery.json` seed file that `send_data` reads or moves. -/
structure PerfQuery where
  SymbolErrorCounter : ℤ
  LinkDownedCounter : ℤ
  PortXmitDiscards : ℤ
  PortXmitData : ℤ
deriving DecidableEq

namespace PerfQuery

/-- `switchSimulatorSeedMap[cmc][switchGUID][ibmetric]`, for the counters that the simulator
reads. -/
def get? (q : PerfQuery) : String → Option ℤ
  | "SymbolErrorCounter" => some q.SymbolErrorCounter
  | "LinkDownedCounter" => some q.LinkDownedCounter
  | "PortXmitDiscards" => some q.PortXmitDiscards
  | "PortXmitData" => some q.PortXmitData
  | _ => none

/-- The random steps, one draw of `random.random()` for each counter. -/
def advance (q : PerfQuery) (x y z : ℚ) : PerfQuery :=
  { q with
    SymbolErrorCounter := q.SymbolErrorCounter +
      if x > 98 / 100 then 1000 else if x > 88 / 100 then 10 else if x > 78 / 100 then 1 else 0
    LinkDownedCounter := q.LinkDownedCounter +
      if y > 99 / 100 then 100 else if y > 89 / 100 then 5 else if y > 79 / 100 then 1 else 0
    PortXmitDiscards := q.PortXmitDiscards +
      if z > 99 / 100 then 10 else if z > 89 / 100 then 5 else if z > 79 / 100 then 2 else 0 }

end PerfQuery

/-- What `send_data` has at hand when it comes to a switch: `sensor_uuid[cmc][switchGUID]`, the
moved seed counters, and the time. -/
structure SwitchReading where
  sensor_uuid : Dict String UUID
  seed : PerfQuery
  timestamp : ℤ
deriving DecidableEq

namespace IBswitchSimulator

variable {Bytes : Type} (S : MessageSerializer Bytes) (getsizeof : ℕ → ℕ) (args : SendArgs)
  (myAgent_uuid : UUID)

/-- The record of one metric, or with the batch counter on a record with the count of the current
subtopic. -/
def record (reading : SwitchReading) (a : AgentCommon Bytes) (ibmetric : String) :
    Option SendTimeSeriesDruid :=
  if ¬ a.myEnableMQTTbatchesCounter then do
    let sensorUuid ← reading.sensor_uuid.get? ibmetric
    let sensorValue ← reading.seed.get? ibmetric
    some ⟨reading.timestamp, sensorUuid, .finite sensorValue⟩
  else do
    let count ← a.myBatchCounter[a.myCurrentSubtopic]?
    some ⟨reading.timestamp, myAgent_uuid, .ofNat count⟩

/-- `record_list` of one switch, one record for each metric. -/
def recordList (reading : SwitchReading) (a : AgentCommon Bytes) :
    Option (List SendTimeSeriesDruid) :=
  ibmetrics.mapM (record myAgent_uuid reading a)

/-- One pass of the loop over the switches, from the record list on. -/
def sendSwitch (reading : SwitchReading) (a : AgentCommon Bytes) : Option (AgentCommon Bytes) :=
  (recordList myAgent_uuid reading a).map (a.send S getsizeof args)

/-- The record list with the batch counter on: both records carry the count of the subtopic whose
turn it is. -/
lemma recordList_counting {reading : SwitchReading} {a : AgentCommon Bytes} {count : ℕ}
    (henable : a.myEnableMQTTbatchesCounter = true)
    (hcount : a.myBatchCounter[a.myCurrentSubtopic]? = some count) :
    recordList myAgent_uuid reading a
      = some (List.replicate 2 ⟨reading.timestamp, myAgent_uuid, .ofNat count⟩) := by
  simp [recordList, record, ibmetrics, henable, hcount, List.replicate]

end IBswitchSimulator

end KrakenMare
