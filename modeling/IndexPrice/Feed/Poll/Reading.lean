import IndexPrice.Feed.Poll.Fetch
import IndexPrice.Feed.Poll.Poller
import IndexPrice.Metrics.Basic
import IndexPrice.Price.Store

/-!
# Reading a provider

One read goes through the requests of a poller in order and takes the samples of each
response.  The first request that fails ends the read, as does a response that cannot
be converted; what was taken before stays.
-/

namespace IndexPrice.Feed.Poll

structure Gathered where
  store : PriceStore := NameMap.empty
  lastData : NameMap Instant := NameMap.empty
  metrics : Metrics := {}

inductive ReadFault where
  | fetch (fault : FetchFault)
  | payload (fault : PayloadFault)
  | conversion (fault : ConversionFault)
  deriving DecidableEq

/-- Discarding a complete response is no failure to read. -/
def ReadFault.isFailure : ReadFault → Bool
  | .fetch _ => true
  | .payload _ => true
  | .conversion _ => false

namespace Poller

def samples (poller : Poller) (fetched : Except FetchFault (Body × Instant)) :
    Except ReadFault (List (String × Sample)) := do
  let (body, received) ← fetched.mapError .fetch
  let raw ← (poller.format.parse received poller.reference body).mapError .payload
  (poller.convert raw).mapError .conversion

def take (poller : Poller) (gathered : Gathered) (entry : String × Sample) : Gathered :=
  match gathered.store.offer entry.1 entry.2 with
  | (true, store) => {
      store
      lastData := gathered.lastData.insert entry.1 entry.2.time
      metrics := gathered.metrics.sampleStored poller.format.provider }
  | (false, _) => gathered

def takeAll (poller : Poller) (gathered : Gathered) (entries : List (String × Sample)) :
    Gathered :=
  entries.foldl poller.take gathered

def giveUp (poller : Poller) (gathered : Gathered) (fault : ReadFault) : Gathered :=
  if fault.isFailure then
    { gathered with metrics := gathered.metrics.readFailed poller.format.provider }
  else gathered

def readRequests {σ : Type} (poller : Poller) (server : Server σ) :
    List Request → Gathered × σ → Gathered × σ
  | [], state => state
  | request :: rest, (gathered, s) =>
    let (fetched, s) := fetch server poller.maxAttempts request s
    match poller.samples fetched with
    | .ok entries => readRequests poller server rest (poller.takeAll gathered entries, s)
    | .error fault => (poller.giveUp gathered fault, s)

def read {σ : Type} (poller : Poller) (server : Server σ) (state : Gathered × σ) : Gathered × σ :=
  poller.readRequests server poller.requests state

end Poller

end IndexPrice.Feed.Poll
