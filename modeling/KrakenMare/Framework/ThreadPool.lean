import KrakenMare.Framework.Executor
import KrakenMare.Lib.ThreadPool

/-!
# The executor of the listeners

`impl/FrameworkMqttListener.java`: the three listeners share one
`Executors.newFixedThreadPool(128)`, and `messageArrived` submits a task to it for every message.
A message that finds all threads busy waits in the queue of the pool, which has no bound.

`runFramework` has a thread for every message at once, so that it covers any number of threads; all
results about the framework are proved of its runs.  `runExecutor` is the framework with the pool
that the source has, as an instance of `Lib.ThreadPool`, and `executor_run` connects the two.

* **No more than 128 messages are handled at a time**, and they are taken in the order of arrival.
* All that the threads do is a run of `runFramework`, so what holds of all these holds here.
* The work is bounded: `Request.calls` counts the calls that a handler makes.
* While a UUID is left that has not been drawn, and a message waits or is being handled, one of the
  threads can go on.
-/

namespace KrakenMare

open Lib Lib.Interleaving MqttDeviceListListener Protocol

/-- The size of the pool, which `FrameworkMqttListener` makes once for all listeners. -/
def executorThreads : ℕ := 128

/-- The framework with its thread pool, on a Redis store that has been reset. -/
def runExecutor (events : List (ThreadPool.Event Request Oracle)) :
    ThreadPool.Executor (Call RedisCmd) Answer ProcessException Message Request World :=
  ThreadPool.run executorThreads (messageArrived agentRedisRepository) exec
    (.start World.reset) events

/-- How many calls the handler of a request makes, if nothing fails: a device list draws one UUID
for each of its `slots` and makes four more calls. -/
def Request.calls : Request → ℕ
  | .register _ => 4
  | .devices m => slots m.devices + 4
  | .deregister _ => 4

/-- A handler that has a call to make has made fewer than its message asks for. -/
lemma Protocol.Next.length_lt {m : Request} {l : List (Answered Answer)} {c : Call RedisCmd}
    (h : Next m l c) : l.length < m.calls := by
  cases h with
  | incr | identity | save | welcome => simp [Request.calls, saved, identified]
  | find | delete | goodbye | report => simp [Request.calls, deleted, found]
  | draw m us hus =>
      simp only [Request.calls, draws, List.length_map]
      omega
  | fetch m us hus | update m us a hus | respond m us a n hus | record m us a n hus =>
      simp only [Request.calls, updated, fetched, draws, List.length_append, List.length_map,
        List.length_singleton]
      omega

/-- Every call can be done while there is a UUID that has not been drawn. -/
lemma exists_exec {w : World} {u : UUID} (hu : u ∉ w.drawn) (c : Call RedisCmd) :
    ∃ o r w', exec c o w = some (r, w') := by
  cases c with
  | randomUUID => exact ⟨⟨u, true⟩, u, { w with drawn := w.drawn ++ [u] }, if_neg hu⟩
  | publish topic m => exact ⟨⟨u, true⟩, true, w, rfl⟩
  | send topic key m => exact ⟨⟨u, true⟩, (), w, rfl⟩
  | store c => exact ⟨⟨u, true⟩, _, _, rfl⟩

/-- **The executor.**  Whatever the order of events, no more than 128 messages are handled at a
time; each message is taken once, in the order of arrival; all that the threads do is a run of
`runFramework`; they make no more calls than the messages taken ask for; and while a UUID is left
and a message is waiting or being handled, one of the threads can go on. -/
theorem executor_run (events : List (ThreadPool.Event Request Oracle)) :
    let e := runExecutor events
    ThreadPool.busy e.pool ≤ 128 ∧
      e.pool.history.messages ++ e.waiting = events.filterMap ThreadPool.Event.submitted? ∧
      (∃ acts, e.pool = runFramework acts) ∧
      e.pool.log.length ≤ (e.pool.history.messages.map Request.calls).sum ∧
      ∀ u ∉ e.pool.world.drawn, e.waiting ≠ [] ∨ ThreadPool.busy e.pool ≠ 0 →
        ∃ x : ThreadPool.Event Request Oracle, x.submitted? = none ∧
          let e' := runExecutor (events ++ [x])
          e'.waiting.length < e.waiting.length ∨ e'.pool.log.length = e.pool.log.length + 1 := by
  intro e
  obtain ⟨acts, hacts⟩ : ∃ acts, e.pool = runFramework acts := ThreadPool.free_run _ events
  have hreach : Reachable anyCall e.pool.history := hacts ▸ reachable_run acts
  refine ⟨ThreadPool.busy_run _ events, ThreadPool.tasks_run _ events, ⟨acts, hacts⟩,
    ThreadPool.length_log_le hreach Request.calls fun _ _ _ h => h.length_lt, ?_⟩
  intro u hu hwork
  obtain ⟨x, hx, hprogress⟩ := ThreadPool.not_stuck executorThreads
    (messageArrived agentRedisRepository) exec (by decide) e hwork fun _ _ c _ _ => exists_exec hu c
  refine ⟨x, hx, ?_⟩
  rw [runExecutor, ThreadPool.run_concat]
  exact hprogress

end KrakenMare
