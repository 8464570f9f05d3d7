import KrakenMare.FanIn.Diagnostics
import KrakenMare.Lib.Rounding
import KrakenMare.Simulator.BatchCounter

/-!
# Sensor values on the wire

A simulator puts integers into the records, the seed counters or its batch counters.  On the wire
they are IEEE singles, once in the batch array and once more in the record for Kafka, and a single
has a significand of 24 bits.  Counters in the seed files go beyond that.

That a serializer carries singles is an assumption here (`CarriesSingles`), as the Avro library is
not part of this; `singleSerializer` has it, so that it can be met.  Rounding is that of
`Lib.Rounding`, to the nearest and to even on a tie.

* `float_eq_iff` — an integer is carried unchanged exactly when it is a single.
* `isLeast_lost` — the least count that is not one is `2 ^ 24 + 1`.
* `exists_int_of_mem` — whatever a simulator sends is an integer.
* `consumed_batch_iff`, `consumed_value_iff` — one batch, and one record of it, as a consumer of
  Kafka reads them.
* **`sensor_values_survive_iff`** — which values of a run come out of Kafka as they were assigned.
* `batch_counts_survive` — which batch counts do: the first `2 ^ 24` batches of every subtopic at
  least.
* `sensor_value_lost` — a counter of a seed file that comes out two short.

With the batch counter check off, rounding changes neither the number of records nor their order;
with it on, a value that has become an infinity ends the handler, as `int` cannot read it.
-/

namespace KrakenMare

open Lib AgentCommon IBswitchSimulator

/-! ## Avro floats -/

/-- The single nearest to an integer, or an infinity beyond the range of singles. -/
def single (z : ℤ) : Number :=
  if |Rounding.roundInt 24 z| < 2 ^ 128 then .finite (Rounding.roundInt 24 z)
  else .infinity (z < 0)

/-- An integer that an IEEE single holds: its significand has 24 bits, and its exponent fits. -/
def IsSingle (z : ℤ) : Prop := Rounding.Representable 24 z ∧ |z| < 2 ^ 128

instance decidableIsSingle (z : ℤ) : Decidable (IsSingle z) := inferInstanceAs (Decidable (_ ∧ _))

/-- An Avro `float` is an IEEE single.  This is what is assumed of the library; nothing is said of
fractions. -/
def CarriesSingles {Bytes : Type} (S : MessageSerializer Bytes) : Prop :=
  ∀ z : ℤ, S.float (.finite z) = single z

lemma single_eq_iff (z : ℤ) : single z = .finite z ↔ IsSingle z := by
  rw [single, IsSingle, ← Rounding.roundInt_eq_self_iff]
  split_ifs with hfinite
  · rw [Number.finite.injEq, Int.cast_inj]
    exact ⟨fun h => ⟨h, h ▸ hfinite⟩, And.left⟩
  · simp only [false_iff, not_and]
    intro h hlt
    exact hfinite (h.symm ▸ hlt)

lemma isSingle_of_abs_le {z : ℤ} (h : |z| ≤ 2 ^ 24) : IsSingle z := by
  have hle : z.natAbs ≤ 2 ^ 24 := by
    rw [Int.abs_eq_natAbs] at h
    exact_mod_cast h
  exact ⟨Rounding.representable_of_natAbs_le (by omega) hle, h.trans_lt (by norm_num)⟩

/-- **The first count that is lost**: up to `2 ^ 24` every integer is a single, and the next one is
not. -/
theorem isLeast_lost : IsLeast {n : ℕ | ¬ IsSingle n} (2 ^ 24 + 1) := by
  constructor
  · intro h
    exact Rounding.not_representable_of_odd (by norm_num) (by norm_num) h.1
  · intro n hn
    by_contra hlt
    refine hn (isSingle_of_abs_le ?_)
    rw [Int.abs_eq_natAbs]
    exact_mod_cast (by omega : n ≤ 2 ^ 24)

/-- A record with an integer that a single holds, and which so survives the wire. -/
def HoldsSingle (r : SendTimeSeriesDruid) : Prop := ∃ z : ℤ, r.sensorValue = .finite z ∧ IsSingle z

lemma holdsSingle_iff {r : SendTimeSeriesDruid} {z : ℤ} (hz : r.sensorValue = .finite z) :
    HoldsSingle r ↔ IsSingle z := by
  rw [HoldsSingle, hz]
  constructor
  · rintro ⟨z', heq, hsingle⟩
    rwa [Int.cast_inj.mp (Number.finite.inj heq)]
  · exact fun hsingle => ⟨z, rfl, hsingle⟩

section
variable {Bytes : Type} {S : MessageSerializer Bytes}

/-- **An integer** is carried unchanged exactly when it is a single. -/
theorem float_eq_iff (hS : CarriesSingles S) (z : ℤ) :
    S.float (.finite z) = .finite z ↔ IsSingle z := by
  rw [hS z, single_eq_iff]

lemma carried_eq_self_iff {r : SendTimeSeriesDruid} :
    S.carried r = r ↔ S.float r.sensorValue = r.sensorValue := by
  constructor
  · exact congrArg SendTimeSeriesDruid.sensorValue
  · intro h
    rw [MessageSerializer.carried, SendTimeSeriesDruid.mapFloat, h]

end

/-! ## The records of a run -/

namespace IBswitchSimulator

variable {Bytes : Type} (S : MessageSerializer Bytes) (getsizeof : ℕ → ℕ) (args : SendArgs)
  (myAgent_uuid : UUID)

/-- The record lists that `send_data` builds, pass after pass; a pass that raises builds none. -/
def recordLists : List SwitchReading → AgentCommon Bytes → List (List SendTimeSeriesDruid)
  | [], _ => []
  | reading :: readings, a => (recordList myAgent_uuid reading a).toList
      ++ recordLists readings (simulate S getsizeof args myAgent_uuid reading a)

lemma foldl_simulate : ∀ (readings : List SwitchReading) (a : AgentCommon Bytes),
    readings.foldl (fun a r => simulate S getsizeof args myAgent_uuid r a) a
      = a.sendAll S getsizeof args (recordLists S getsizeof args myAgent_uuid readings a)
  | [], _ => rfl
  | reading :: readings, a => by
      rw [List.foldl_cons, foldl_simulate readings, recordLists, sendAll, sendAll,
        List.foldl_append]
      congr 1
      rw [simulate, sendSwitch]
      cases recordList myAgent_uuid reading a <;> rfl

variable {myAgent_uuid}

/-- `send_data` assigns integers. -/
lemma exists_int_record {reading : SwitchReading} {a : AgentCommon Bytes} {ibmetric : String}
    {r : SendTimeSeriesDruid} (h : record myAgent_uuid reading a ibmetric = some r) :
    ∃ z : ℤ, r.sensorValue = .finite z := by
  rw [record] at h
  split_ifs at h
  · obtain ⟨count, -, hr⟩ := Option.bind_eq_some_iff.mp h
    obtain rfl := Option.some.inj hr
    exact ⟨count, rfl⟩
  · obtain ⟨u, -, hu⟩ := Option.bind_eq_some_iff.mp h
    obtain ⟨z, -, hr⟩ := Option.bind_eq_some_iff.mp hu
    obtain rfl := Option.some.inj hr
    exact ⟨z, rfl⟩

lemma exists_int_of_mem : ∀ {readings : List SwitchReading} {a : AgentCommon Bytes}
    {r : SendTimeSeriesDruid},
    r ∈ (recordLists S getsizeof args myAgent_uuid readings a).flatten →
      ∃ z : ℤ, r.sensorValue = .finite z
  | reading :: readings, a, r, h => by
      rw [recordLists, List.flatten_append, List.mem_append] at h
      rcases h with hfirst | hrest
      · obtain ⟨l, hl, hr⟩ := List.mem_flatten.mp hfirst
        obtain ⟨ibmetric, -, hrecord⟩ := mem_of_mapM (Option.mem_toList.mp hl) r hr
        exact exists_int_record hrecord
      · exact exists_int_of_mem hrest

end IBswitchSimulator

/-! ## The records of a consumer -/

namespace FanIn

variable {Bytes : Type} (S : MessageSerializer Bytes)

/-- The records in what a process has produced, as a consumer of the Kafka topic decodes them. -/
def consumed (f : FanIn Bytes) : List SendTimeSeriesDruid :=
  f.produced.filterMap fun raw => match S.decode raw with
    | some (.sendTimeSeriesDruid r) => some r
    | _ => none

variable {S} {producer : ℕ → ProduceOutcome} {f : FanIn Bytes}

/-- A consumer reads a record as it came off the wire the first time. -/
lemma consumed_mqttOnMessage (hmode : DecodeMode f) (b : List SendTimeSeriesDruid) :
    consumed S (mqttOnMessage S producer ⟨f.topic, S.encodeBatch b⟩ f)
      = consumed S f ++ (b.takeWhile fun r =>
          readable f.enableMQTTbatchCount (S.carried r)).map S.carried := by
  have hands : Hands f (mqttOnMessage S producer ⟨f.topic, S.encodeBatch b⟩ f) _ :=
    hands_mqttOnMessage hmode rfl (S.decode_encodeBatch b)
  rw [consumed, hands.produced, List.filterMap_append, recordsOf_encodeBatch, List.takeWhile_map]
  simp [consumed, Function.comp_def, List.filterMap_map]

lemma readable_carried_of_holdsSingle (hS : CarriesSingles S) {r : SendTimeSeriesDruid}
    (hr : HoldsSingle r) (check : Bool) :
    S.carried r = r ∧ readable check (S.carried r) = true := by
  obtain ⟨z, hz, hsingle⟩ := hr
  have hself : S.carried r = r := by
    rw [carried_eq_self_iff, hz]
    exact (float_eq_iff hS z).mpr hsingle
  refine ⟨hself, ?_⟩
  rw [hself, readable, hz]
  simp [Number.int?]

/-- **One batch** of integers gets through unchanged exactly when they are singles, each record with
its sensor, its time and its value. -/
theorem consumed_batch_iff (hS : CarriesSingles S) (hmode : DecodeMode f)
    {b : List SendTimeSeriesDruid} (hint : ∀ r ∈ b, ∃ z : ℤ, r.sensorValue = .finite z) :
    consumed S (mqttOnMessage S producer ⟨f.topic, S.encodeBatch b⟩ f) = consumed S f ++ b
      ↔ ∀ r ∈ b, HoldsSingle r := by
  rw [consumed_mqttOnMessage hmode, List.append_cancel_left_eq]
  constructor
  · intro heq r hr
    have hlen := congrArg List.length heq
    rw [List.length_map] at hlen
    rw [(List.takeWhile_prefix _).eq_of_length hlen] at heq
    obtain ⟨z, hz⟩ := hint r hr
    have hself : S.carried r = r := List.map_inj_left.mp (heq.trans (List.map_id b).symm) r hr
    rw [carried_eq_self_iff, hz] at hself
    exact ⟨z, hz, (float_eq_iff hS z).mp hself⟩
  · intro hsingle
    have hall := fun r hr => readable_carried_of_holdsSingle hS (hsingle r hr)
      f.enableMQTTbatchCount
    rw [List.takeWhile_eq_self_iff.mpr fun r hr => (hall r hr).2]
    exact List.map_congr_left (fun r hr => (hall r hr).1) |>.trans (List.map_id b)

/-- **One record** that is produced has the value it was sent with exactly when that is a single. -/
theorem consumed_value_iff (hS : CarriesSingles S) (hmode : DecodeMode f)
    {b : List SendTimeSeriesDruid} (hint : ∀ r ∈ b, ∃ z : ℤ, r.sensorValue = .finite z) {k : ℕ}
    {r' : SendTimeSeriesDruid}
    (hk : (consumed S (mqttOnMessage S producer ⟨f.topic, S.encodeBatch b⟩ f))[
      (consumed S f).length + k]? = some r') :
    ∃ r, b[k]? = some r ∧ (r'.sensorValue = r.sensorValue ↔ HoldsSingle r) := by
  rw [consumed_mqttOnMessage hmode, List.getElem?_append_right (Nat.le_add_right ..),
    Nat.add_sub_cancel_left, List.getElem?_map] at hk
  obtain ⟨r, hr, rfl⟩ := Option.map_eq_some_iff.mp hk
  obtain ⟨hlt, -⟩ := List.getElem?_eq_some_iff.mp hr
  have hget : b[k]? = some r := by
    obtain ⟨rest, hrest⟩ := List.takeWhile_prefix (l := b) fun r =>
      readable f.enableMQTTbatchCount (S.carried r)
    rw [← hrest, List.getElem?_append_left hlt, hr]
  obtain ⟨z, hz⟩ := hint r (List.mem_of_getElem? hget)
  refine ⟨r, hget, ?_⟩
  show S.float r.sensorValue = r.sensorValue ↔ HoldsSingle r
  rw [holdsSingle_iff hz, hz, float_eq_iff hS]

end FanIn

/-! ## A serializer with singles -/

/-- The numbers that are not integers stay as they are here. -/
def singleFloat : Number → Number
  | .finite q => if q.den = 1 then single q.num else .finite q
  | x => x

@[simp] lemma singleFloat_intCast (z : ℤ) : singleFloat (.finite z) = single z := by
  simp [singleFloat]

/-- Rounding a second time changes nothing. -/
lemma singleFloat_singleFloat (x : Number) : singleFloat (singleFloat x) = singleFloat x := by
  have hsingle : ∀ z : ℤ, singleFloat (single z) = single z := by
    intro z
    rw [single]
    split_ifs with hfinite
    · rw [singleFloat_intCast, single_eq_iff]
      exact ⟨Rounding.representable_roundInt (by omega) z, hfinite⟩
    · rfl
  cases x with
  | finite q =>
      by_cases hq : q.den = 1
      · have hint : q = q.num := (Rat.den_eq_one_iff q).mp hq |>.symm
        rw [hint, singleFloat_intCast, hsingle]
      · simp [singleFloat, hq]
  | infinity negative => rfl
  | nan => rfl

/-- A serializer whose payloads are the records with their floats already rounded. -/
def singleSerializer : MessageSerializer Message where
  encode m := m.mapFloat singleFloat
  decode := some
  float := singleFloat
  decode_encode _ := rfl
  encode_mapFloat m := by
    rw [Message.mapFloat_mapFloat]
    exact congrArg (Message.mapFloat · m) (funext singleFloat_singleFloat)
  float_exact n h := by rw [singleFloat_intCast, single_eq_iff]; exact isSingle_of_abs_le h

lemma carriesSingles_singleSerializer : CarriesSingles singleSerializer := singleFloat_intCast

/-! ## Every run -/

section
variable {Bytes : Type} {S : MessageSerializer Bytes} {getsizeof : ℕ → ℕ} {args : SendArgs}
  {u : UUID} {T s : ℕ}

/-- **Sensor values.**  What a simulator publishes are the records it built, in batches.  Of
each batch that a FanIn process decodes, the records it produces have the values they were built
with exactly when these are singles, and the batch as a whole gets through exactly when all of
them are. -/
theorem sensor_values_survive_iff (hS : CarriesSingles S) (enable : Bool) (hs : s < T)
    (hb : 0 < args.byteBatchSize) (readings : List SwitchReading) :
    ∃ batches, Sent S getsizeof args T s
        (recordLists S getsizeof args u readings (start enable T s)).flatten batches
        (readings.foldl (fun a r => simulate S getsizeof args u r a) (start enable T s)) ∧
      ∀ b ∈ batches, ∀ producer (f : FanIn Bytes), FanIn.DecodeMode f →
        let g := FanIn.mqttOnMessage S producer ⟨f.topic, S.encodeBatch b⟩ f
        (∀ k r', (FanIn.consumed S g)[(FanIn.consumed S f).length + k]? = some r' →
          ∃ r, b[k]? = some r ∧ (r'.sensorValue = r.sensorValue ↔ HoldsSingle r)) ∧
        (FanIn.consumed S g = FanIn.consumed S f ++ b ↔ ∀ r ∈ b, HoldsSingle r) := by
  have hloop : Accepting S getsizeof args (Batched S getsizeof args T s) :=
    accepting_batched (Nat.zero_lt_of_lt hs) hb
  obtain ⟨batches, hsent⟩ := (follows_sendAll hloop (batched_start enable hs)
    (recordLists S getsizeof args u readings (start enable T s))).sent hb
  rw [← foldl_simulate] at hsent
  refine ⟨batches, hsent, fun b hmem producer f hmode => ?_⟩
  have hint : ∀ r ∈ b, ∃ z : ℤ, r.sensorValue = .finite z := fun r hr =>
    exists_int_of_mem S getsizeof args (hsent.mem_stream hmem hr)
  exact ⟨fun k r' hk => FanIn.consumed_value_iff hS hmode hint hk,
    FanIn.consumed_batch_iff hS hmode hint⟩

/-- **Batch counts.**  A record of batch `i` of a simulator that counts batches carries a single
exactly when the count of its round is one, so the first `2 ^ 24` batches of every subtopic get
through. -/
theorem batch_counts_survive (hs : s < T) (hb : 0 < args.byteBatchSize) {N : ℕ}
    (hN : Fills getsizeof args N) (readings : List SwitchReading) :
    ∃ batches, Sent S getsizeof args T s (stampedStream u T N readings) batches
        (readings.foldl (fun a r => simulate S getsizeof args u r a) (start true T s)) ∧
      ∀ (i : ℕ) (hi : i < batches.length) (k : ℕ) (hk : k < batches[i].length),
        (HoldsSingle batches[i][k] ↔ IsSingle (batchCount T N i k)) ∧
          (i < 2 ^ 24 * T → HoldsSingle batches[i][k]) := by
  have hfollows : Follows S args _ (stampedStream u T N readings) _ :=
    follows_simulate (Nat.zero_lt_of_lt hs) hs hb hN readings
  obtain ⟨batches, hsent⟩ := (hfollows.mono fun h => h.1).sent hb
  refine ⟨batches, hsent, fun i hi k hk => ?_⟩
  obtain ⟨hkN, -, hvalue⟩ := getElem_batch hsent hN hi hk
  rw [stamp_batch hkN] at hvalue
  have hiff : HoldsSingle batches[i][k] ↔ IsSingle (batchCount T N i k) := holdsSingle_iff hvalue
  refine ⟨hiff, fun hround => hiff.mpr (isSingle_of_abs_le ?_)⟩
  have hdiv : i / T < 2 ^ 24 := (Nat.div_lt_iff_lt_mul (Nat.zero_lt_of_lt hs)).mpr hround
  have hle : batchCount T N i k ≤ 2 ^ 24 := by
    rw [batchCount]
    split_ifs <;> omega
  rw [Int.abs_eq_natAbs]
  exact_mod_cast hle

end

/-- A data counter of eighteen million gets through, although it is beyond `2 ^ 24`; it is even. -/
theorem sensor_values_survive_seed :
    let reading : SwitchReading :=
      ⟨.ofEntries [("SymbolErrorCounter", ⟨5⟩), ("PortXmitData", ⟨6⟩)],
        ⟨600, 0, 0, 18235298⟩, 1570135369000⟩
    let args : SendArgs := ⟨"ibswitch", -1, 1, ⟨7⟩, false⟩
    let f : FanIn Message := .start "ibswitch/0" true false false
    ∃ batches, Sent singleSerializer listSizeof args 1 0 [⟨1570135369000, ⟨5⟩, .finite 600⟩,
        ⟨1570135369000, ⟨6⟩, .finite 18235298⟩] batches
        (simulate singleSerializer listSizeof args ⟨7⟩ reading (start false 1 0)) ∧
      ∀ b ∈ batches, FanIn.consumed singleSerializer (FanIn.mqttOnMessage singleSerializer
        (fun _ => .accepted) ⟨f.topic, singleSerializer.encodeBatch b⟩ f) = b := by
  intro reading args f
  obtain ⟨batches, hsent, hconsumed⟩ := @sensor_values_survive_iff _ singleSerializer listSizeof args
    ⟨7⟩ 1 0 carriesSingles_singleSerializer false (by decide) (by decide) [reading]
  have hstream : (recordLists singleSerializer listSizeof args ⟨7⟩ [reading]
      (start false 1 0)).flatten = [⟨1570135369000, ⟨5⟩, .finite (600 : ℤ)⟩,
        ⟨1570135369000, ⟨6⟩, .finite (18235298 : ℤ)⟩] := by
    decide +kernel
  rw [hstream] at hsent
  refine ⟨batches, hsent, fun b hb => ?_⟩
  refine (hconsumed b hb (fun _ => .accepted) f ⟨rfl, rfl⟩).2.mpr fun r hr => ?_
  rcases List.mem_pair.mp (hsent.mem_stream hb hr) with rfl | rfl
  · exact ⟨600, rfl, by decide +kernel⟩
  · exact ⟨18235298, rfl, by decide +kernel⟩

/-- A data counter of forty-eight million, as in `seed/0x0800690000007466.perfquery.json`, comes
out of Kafka two short. -/
theorem sensor_value_lost :
    let reading : SwitchReading :=
      ⟨.ofEntries [("SymbolErrorCounter", ⟨5⟩), ("PortXmitData", ⟨6⟩)],
        ⟨0, 0, 0, 48235298⟩, 1570135369000⟩
    let args : SendArgs := ⟨"ibswitch", -1, 1, ⟨7⟩, false⟩
    let a := simulate singleSerializer listSizeof args ⟨7⟩ reading (start false 1 0)
    CarriesSingles singleSerializer ∧
      recordList ⟨7⟩ reading (start false 1 0 : AgentCommon Message) = some
        [⟨1570135369000, ⟨5⟩, .finite 0⟩, ⟨1570135369000, ⟨6⟩, .finite 48235298⟩] ∧
      FanIn.consumed singleSerializer (FanIn.receive singleSerializer (fun _ => .accepted)
        (.start "ibswitch/0" true false false) a.publications)
        = [⟨1570135369000, ⟨5⟩, .finite 0⟩, ⟨1570135369000, ⟨6⟩, .finite 48235296⟩] :=
  ⟨carriesSingles_singleSerializer, by decide +kernel, by decide +kernel⟩

end KrakenMare
