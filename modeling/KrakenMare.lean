import KrakenMare.Pipeline.CounterCheck
import KrakenMare.Pipeline.Unbatched
import KrakenMare.Lib.Interleaving
import KrakenMare.Framework.Repository
import KrakenMare.Framework.Listeners
import KrakenMare.Framework.Executor
import KrakenMare.Framework.Alone
import KrakenMare.Framework.Representation
import KrakenMare.Framework.Deregistration
import KrakenMare.Framework.Registration
import KrakenMare.Framework.DeviceLists
import KrakenMare.Framework.Directory
import KrakenMare.Framework.TwoStores
import KrakenMare.Framework.DeviceUuids
import KrakenMare.Agent.DeviceRegistration
import KrakenMare.Simulator.DeviceMap
import KrakenMare.Pipeline.RoundRobin
import KrakenMare.FanIn.Diagnostics
import KrakenMare.FanIn.Acceptance
import KrakenMare.Pipeline.Passthrough
import KrakenMare.Framework.Agreement
import KrakenMare.Redfish.DeviceMap
import KrakenMare.Agent.Handshake
import KrakenMare.Framework.KafkaLog
import KrakenMare.Framework.Failures
import KrakenMare.Agent.Identity
import KrakenMare.Agent.Deployment
import KrakenMare.Pipeline.MissingCount
import KrakenMare.Pipeline.BatchSize
import KrakenMare.Framework.MqttClient
import KrakenMare.Agent.Routing
import KrakenMare.Agent.Requests
import KrakenMare.Framework.ThreadPool
import KrakenMare.Lib.Rounding
import KrakenMare.Pipeline.SensorValues
import KrakenMare.Pipeline.FinalCounts
import KrakenMare.Simulator.Shutdown
import KrakenMare.FanIn.KrakenMareLogger
import KrakenMare.Simulator.Counters
import KrakenMare.Pipeline.Monotone
import KrakenMare.Framework.Listing
import KrakenMare.FanIn.Main
import KrakenMare.Pipeline.Coverage
import KrakenMare.Agent.Answers
import KrakenMare.Agent.Cluster
import KrakenMare.Agent.Standing
import KrakenMare.Agent.SentRecords
