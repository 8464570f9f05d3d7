import KrakenMare.Schema.Records
import Mathlib.Algebra.Order.Group.Unbundled.Abs
import Mathlib.Algebra.Order.Ring.Int

/-!
# The message serializer

`schema_registry.serializers.MessageSerializer` on the Python side and `KafkaAvroSerializer` on the
Java side are library code.  Both write the id of a schema in front of the Avro encoding of the
record, and read a payload with the schema that its id names.

What the repository relies on is collected in one structure, `MessageSerializer`, whose fields
carry their laws: a payload decodes to the record that was encoded, except that a `float` field
holds the nearest IEEE single (`decode_encode`), and encoding what was decoded gives the same bytes
again (`encode_mapFloat`).  That a `float` carries the integers of up to 24 bits exactly is the one
thing said here about which number the nearest single is; `Pipeline.SensorValues` builds a
serializer that rounds as Avro does.

The type `Bytes` of payloads stays abstract: nobody in the repository looks inside one.
`structuralSerializer`, whose payloads are the records themselves, is the instance on which the
examples run.
-/

namespace KrakenMare

/-- The serializer and its laws.  A proof about the pipeline may use these and nothing else about
the bytes of a payload. -/
structure MessageSerializer (Bytes : Type) where
  /-- `encode_record_with_schema_id`, the id being that of the record's own schema -/
  encode : Message → Bytes
  /-- `decode_message`; `none` where it raises -/
  decode : Bytes → Option Message
  /-- the value a `float` field carries for a number -/
  float : Number → Number
  decode_encode : ∀ m, decode (encode m) = some (m.mapFloat float)
  /-- rounding a second time changes nothing, so the bytes are the same -/
  encode_mapFloat : ∀ m, encode (m.mapFloat float) = encode m
  /-- an integer of at most 24 bits is carried exactly -/
  float_exact : ∀ n : ℤ, |n| ≤ 2 ^ 24 → float (.finite n) = .finite n

namespace MessageSerializer

variable {Bytes : Type} (S : MessageSerializer Bytes)

/-- The bytes of one `SendTimeSeriesDruid` record, as the unbatched mode publishes it and as the
fan-in puts it into Kafka. -/
def encodeRecord (r : SendTimeSeriesDruid) : Bytes := S.encode (.sendTimeSeriesDruid r)

/-- The bytes of one `tripletBatch`, as the batched mode publishes it. -/
def encodeBatch (rs : List SendTimeSeriesDruid) : Bytes :=
  S.encode (.sendTimeSeriesDruidArray ⟨rs⟩)

/-- The record as it is read off the wire: its value is what a `float` field carries for the value
that was sent. -/
def carried (r : SendTimeSeriesDruid) : SendTimeSeriesDruid := r.mapFloat S.float

@[simp] lemma decode_encodeBatch (rs : List SendTimeSeriesDruid) :
    S.decode (S.encodeBatch rs) = some (.sendTimeSeriesDruidArray ⟨rs.map S.carried⟩) :=
  S.decode_encode _

@[simp] lemma decode_encodeRecord (r : SendTimeSeriesDruid) :
    S.decode (S.encodeRecord r) = some (.sendTimeSeriesDruid (S.carried r)) :=
  S.decode_encode _

/-- A record that was decoded encodes to the bytes of the record that was sent. -/
@[simp] lemma encodeRecord_carried (r : SendTimeSeriesDruid) :
    S.encodeRecord (S.carried r) = S.encodeRecord r :=
  S.encode_mapFloat (.sendTimeSeriesDruid r)

lemma float_ofNat {n : ℕ} (h : n ≤ 2 ^ 24) : S.float (Number.ofNat n) = Number.ofNat n := by
  have := S.float_exact n (by rw [abs_of_nonneg (by positivity)]; exact_mod_cast h)
  simpa [Number.ofNat] using this

end MessageSerializer

lemma Message.mapFloat_id (m : Message) : m.mapFloat id = m := by
  have hs : Sensor.mapFloat id = id := by funext s; simp [Sensor.mapFloat]
  have hd : Device.mapFloat id = id := by funext d; simp [Device.mapFloat, hs]
  have hr : SendTimeSeriesDruid.mapFloat id = id := by funext r; simp [SendTimeSeriesDruid.mapFloat]
  cases m <;> simp [Message.mapFloat, Agent.mapFloat, hd, hr]

lemma Message.mapFloat_mapFloat (f g : Number → Number) (m : Message) :
    (m.mapFloat f).mapFloat g = m.mapFloat (g ∘ f) := by
  have hs : Sensor.mapFloat g ∘ Sensor.mapFloat f = Sensor.mapFloat (g ∘ f) := by
    funext s; simp [Sensor.mapFloat]
  have hd : Device.mapFloat g ∘ Device.mapFloat f = Device.mapFloat (g ∘ f) := by
    funext d; simp [Device.mapFloat, hs]
  have hr : SendTimeSeriesDruid.mapFloat g ∘ SendTimeSeriesDruid.mapFloat f
      = SendTimeSeriesDruid.mapFloat (g ∘ f) := by
    funext r; simp [SendTimeSeriesDruid.mapFloat]
  cases m <;> simp [Message.mapFloat, Agent.mapFloat, SendTimeSeriesDruid.mapFloat, hd, hr]

/-- A serializer whose payloads are the records themselves, and whose floats carry every number. -/
def structuralSerializer : MessageSerializer Message where
  encode := id
  decode := some
  float := id
  decode_encode m := by rw [Message.mapFloat_id]; rfl
  encode_mapFloat m := by rw [Message.mapFloat_id]
  float_exact _ _ := rfl

end KrakenMare
