import IndexPrice.Feed.Poll.Reading
import IndexPrice.Proofs.Price.Store
import Mathlib.Data.List.Forall2

/-!
# How far a read gets

A read takes the samples of its responses, one response after another, until all are
taken or one is bad: it is not fetched, not parsed or not converted.  A bad response gives
no samples, and nothing is requested after it.
-/

namespace IndexPrice.Feed.Poll

/-! ## Good and bad responses -/

abbrev Fetched := Except FetchFault (Body × Instant)

/-- The response is complete and can be parsed and converted, and these are its samples. -/
def Good (poller : Poller) (fetched : Fetched) (entries : List (String × Sample)) : Prop :=
  ∃ body received raw, fetched = .ok (body, received) ∧
    poller.format.parse received poller.reference body = .ok raw ∧
    poller.convert raw = .ok entries

/-- What is wrong with a response, and how many failures to read it counts as. -/
inductive Bad (poller : Poller) (fetched : Fetched) : ReadFault → Nat → Prop
  | unfetched {fault : FetchFault} (failed : fetched = .error fault) :
      Bad poller fetched (.fetch fault) 1
  | unparsed {body : Body} {received : Instant} {fault : PayloadFault}
      (complete : fetched = .ok (body, received))
      (parsed : poller.format.parse received poller.reference body = .error fault) :
      Bad poller fetched (.payload fault) 1
  | unconverted {body : Body} {received : Instant} {raw : RawPrices} {fault : ConversionFault}
      (complete : fetched = .ok (body, received))
      (parsed : poller.format.parse received poller.reference body = .ok raw)
      (converted : poller.convert raw = .error fault) :
      Bad poller fetched (.conversion fault) 0

namespace Poller

variable {poller : Poller} {fetched : Fetched}

theorem good_or_bad (poller : Poller) (fetched : Fetched) :
    (∃ entries, Good poller fetched entries) ∨
      ∃ fault failures, Bad poller fetched fault failures := by
  rcases fetched with fault | ⟨body, received⟩
  · exact .inr ⟨_, _, .unfetched rfl⟩
  · cases hparsed : poller.format.parse received poller.reference body with
    | error fault => exact .inr ⟨_, _, .unparsed rfl hparsed⟩
    | ok raw =>
        cases hconverted : poller.convert raw with
        | error fault => exact .inr ⟨_, _, .unconverted rfl hparsed hconverted⟩
        | ok entries => exact .inl ⟨entries, body, received, raw, rfl, hparsed, hconverted⟩

private theorem samples_of_good {entries : List (String × Sample)}
    (h : Good poller fetched entries) :
    poller.samples fetched = .ok entries := by
  obtain ⟨body, received, raw, rfl, hparsed, hconverted⟩ := h
  simp [samples, Except.mapError, bind, Except.bind, hparsed, hconverted]

private theorem samples_of_bad {fault : ReadFault} {failures : Nat}
    (h : Bad poller fetched fault failures) : poller.samples fetched = .error fault := by
  cases h with
  | unfetched failed =>
      subst failed
      rfl
  | unparsed complete parsed =>
      subst complete
      simp [samples, Except.mapError, bind, Except.bind, parsed]
  | unconverted complete parsed converted =>
      subst complete
      simp [samples, Except.mapError, bind, Except.bind, parsed, converted]

/-! ## Taking samples -/

theorem take_of_news {poller : Poller} {gathered : Gathered} {entry : String × Sample}
    (h : (gathered.store.offer entry.1 entry.2).1 = true) :
    poller.take gathered entry = {
      store := (gathered.store.offer entry.1 entry.2).2
      lastData := gathered.lastData.insert entry.1 entry.2.time
      metrics := gathered.metrics.sampleStored poller.format.provider } := by
  unfold take
  generalize gathered.store.offer entry.1 entry.2 = answer at h ⊢
  obtain ⟨isNews, store⟩ := answer
  cases h
  rfl

theorem take_of_stale {poller : Poller} {gathered : Gathered} {entry : String × Sample}
    (h : (gathered.store.offer entry.1 entry.2).1 = false) :
    poller.take gathered entry = gathered := by
  unfold take
  generalize gathered.store.offer entry.1 entry.2 = answer at h ⊢
  obtain ⟨isNews, store⟩ := answer
  cases h
  rfl

theorem take_eq (poller : Poller) (gathered : Gathered) (entry : String × Sample) :
    poller.take gathered entry = {
      store := (gathered.store.offer entry.1 entry.2).2
      lastData :=
        if (gathered.store.offer entry.1 entry.2).1 then
          gathered.lastData.insert entry.1 entry.2.time
        else gathered.lastData
      metrics :=
        if (gathered.store.offer entry.1 entry.2).1 then
          gathered.metrics.sampleStored poller.format.provider
        else gathered.metrics } := by
  cases hnews : (gathered.store.offer entry.1 entry.2).1 with
  | true => rw [take_of_news hnews, if_pos rfl, if_pos rfl]
  | false =>
      rw [take_of_stale hnews, PriceStore.offer_of_stale hnews, if_neg Bool.false_ne_true,
        if_neg Bool.false_ne_true]

@[simp] theorem store_take (poller : Poller) (gathered : Gathered) (entry : String × Sample) :
    (poller.take gathered entry).store = (gathered.store.offer entry.1 entry.2).2 := by
  rw [take_eq]

@[simp] theorem store_giveUp (poller : Poller) (gathered : Gathered) (fault : ReadFault) :
    (poller.giveUp gathered fault).store = gathered.store := by
  unfold giveUp
  split <;> rfl

@[simp] theorem lastData_giveUp (poller : Poller) (gathered : Gathered) (fault : ReadFault) :
    (poller.giveUp gathered fault).lastData = gathered.lastData := by
  unfold giveUp
  split <;> rfl

end Poller

def noted (lastData : NameMap Instant) (entries : List (String × Sample)) : NameMap Instant :=
  entries.foldl (fun lastData entry => lastData.insert entry.1 entry.2.time) lastData

/-- Something has been gathered by offering these samples in order, with so many failures. -/
structure Applied (poller : Poller) (gathered : Gathered) (entries : List (String × Sample))
    (failures : Nat) (after : Gathered) : Prop where
  store : after.store = (gathered.store.offerAll entries).2
  lastData : after.lastData = noted gathered.lastData (gathered.store.news entries)
  stored : ∀ provider, after.metrics.storedSamples.of provider =
    gathered.metrics.storedSamples.of provider +
      if poller.format.provider = provider then (gathered.store.news entries).length else 0
  failed : ∀ provider, after.metrics.readFailures.of provider =
    gathered.metrics.readFailures.of provider +
      if poller.format.provider = provider then failures else 0
  others : after.metrics = { gathered.metrics with
    storedSamples := after.metrics.storedSamples
    readFailures := after.metrics.readFailures }

namespace Poller

private theorem applied_takeAll (poller : Poller) (gathered : Gathered)
    (entries : List (String × Sample)) :
    Applied poller gathered entries 0 (poller.takeAll gathered entries) := by
  induction entries generalizing gathered with
  | nil =>
      exact ⟨rfl, rfl, fun _ => by simp [takeAll, PriceStore.news],
        fun _ => by simp [takeAll], rfl⟩
  | cons entry rest ih =>
      have hrest := ih (poller.take gathered entry)
      change Applied poller gathered (entry :: rest) 0
        (poller.takeAll (poller.take gathered entry) rest)
      cases hnews : (gathered.store.offer entry.1 entry.2).1 with
      | true =>
          rw [take_of_news hnews] at hrest ⊢
          refine ⟨hrest.store, ?_, fun provider => ?_, hrest.failed, hrest.others⟩
          · rw [PriceStore.news_cons_of_news hnews]
            exact hrest.lastData
          · have hstored := hrest.stored provider
            simp only [Metrics.sampleStored, Counts.of_count] at hstored ⊢
            rw [hstored, PriceStore.news_cons_of_news hnews, List.length_cons]
            split <;> omega
      | false =>
          rw [take_of_stale hnews] at hrest ⊢
          refine ⟨?_, ?_, fun provider => ?_, hrest.failed, hrest.others⟩
          · rw [hrest.store, PriceStore.offerAll_cons_of_stale hnews]
          · rw [hrest.lastData, PriceStore.news_cons_of_stale hnews]
          · rw [hrest.stored, PriceStore.news_cons_of_stale hnews]

private theorem applied_readFailed {poller : Poller} {gathered after : Gathered}
    {entries : List (String × Sample)} (h : Applied poller gathered entries 0 after) :
    Applied poller gathered entries 1
      { after with metrics := after.metrics.readFailed poller.format.provider } := by
  refine ⟨h.store, h.lastData, h.stored, fun provider => ?_, ?_⟩
  · have hfailed := h.failed provider
    simp only [Metrics.readFailed, Counts.of_count] at hfailed ⊢
    rw [hfailed]
    split <;> omega
  · rw [Metrics.readFailed, h.others]

private theorem applied_giveUp {poller : Poller} {gathered after : Gathered}
    {entries : List (String × Sample)} (h : Applied poller gathered entries 0 after)
    {fetched : Fetched} {fault : ReadFault} {failures : Nat}
    (bad : Bad poller fetched fault failures) :
    Applied poller gathered entries failures (poller.giveUp after fault) := by
  cases bad with
  | unfetched failed => exact applied_readFailed h
  | unparsed complete parsed => exact applied_readFailed h
  | unconverted complete parsed converted => exact h

/-! ## Requests one after another -/

variable {σ : Type}

def fetchEach (poller : Poller) (server : Server σ) : List Request → σ → List Fetched × σ
  | [], s => ([], s)
  | request :: rest, s =>
    let (fetched, s) := fetch server poller.maxAttempts request s
    let (later, s) := fetchEach poller server rest s
    (fetched :: later, s)

inductive Course (poller : Poller) (server : Server σ) (requests : List Request)
    (gathered : Gathered) (s : σ) : Gathered × σ → Prop
  | finished {batches : List (List (String × Sample))}
      (good : List.Forall₂ (Good poller) (poller.fetchEach server requests s).1 batches) :
      Course poller server requests gathered s
        (poller.takeAll gathered batches.flatten, (poller.fetchEach server requests s).2)
  | stopped {earlier later : List Request} {request : Request}
      {batches : List (List (String × Sample))} {fault : ReadFault} {failures : Nat}
      (split : requests = earlier ++ request :: later)
      (good : List.Forall₂ (Good poller) (poller.fetchEach server earlier s).1 batches)
      (bad : Bad poller
        (fetch server poller.maxAttempts request (poller.fetchEach server earlier s).2).1
        fault failures) :
      Course poller server requests gathered s
        (poller.giveUp (poller.takeAll gathered batches.flatten) fault,
          (fetch server poller.maxAttempts request (poller.fetchEach server earlier s).2).2)

theorem takeAll_append (poller : Poller) (gathered : Gathered)
    (entries later : List (String × Sample)) :
    poller.takeAll gathered (entries ++ later) =
      poller.takeAll (poller.takeAll gathered entries) later :=
  List.foldl_append

theorem readRequests_of_good {poller : Poller} {server : Server σ} {request : Request} {s : σ}
    {entries : List (String × Sample)}
    (good : Good poller (fetch server poller.maxAttempts request s).1 entries)
    (rest : List Request) (gathered : Gathered) :
    poller.readRequests server (request :: rest) (gathered, s) =
      poller.readRequests server rest
        (poller.takeAll gathered entries, (fetch server poller.maxAttempts request s).2) := by
  simp only [readRequests, samples_of_good good]

theorem readRequests_of_bad {poller : Poller} {server : Server σ} {request : Request} {s : σ}
    {fault : ReadFault} {failures : Nat}
    (bad : Bad poller (fetch server poller.maxAttempts request s).1 fault failures)
    (rest : List Request) (gathered : Gathered) :
    poller.readRequests server (request :: rest) (gathered, s) =
      (poller.giveUp gathered fault, (fetch server poller.maxAttempts request s).2) := by
  simp only [readRequests, samples_of_bad bad]

private theorem Course.of_good {poller : Poller} {server : Server σ} {request : Request}
    {rest : List Request} {gathered : Gathered} {s : σ} {entries : List (String × Sample)}
    {final : Gathered × σ}
    (first : Good poller (fetch server poller.maxAttempts request s).1 entries)
    (course : Course poller server rest (poller.takeAll gathered entries)
      (fetch server poller.maxAttempts request s).2 final) :
    Course poller server (request :: rest) gathered s final := by
  cases course with
  | finished good =>
      rw [← takeAll_append, ← List.flatten_cons]
      exact .finished (.cons first good)
  | @stopped earlier later _ _ _ _ split good bad =>
      rw [← takeAll_append, ← List.flatten_cons]
      have hgood : List.Forall₂ (Good poller)
          (poller.fetchEach server (request :: earlier) s).1 _ := .cons first good
      exact .stopped (congrArg (request :: ·) split) hgood bad

theorem course_readRequests (poller : Poller) (server : Server σ) (requests : List Request)
    (gathered : Gathered) (s : σ) :
    Course poller server requests gathered s
      (poller.readRequests server requests (gathered, s)) := by
  have hnone : ∀ s, List.Forall₂ (Good poller) (poller.fetchEach server [] s).1 [] := fun _ => .nil
  induction requests generalizing gathered s with
  | nil => exact .finished (hnone s)
  | cons request rest ih =>
      rcases good_or_bad poller (fetch server poller.maxAttempts request s).1 with
        ⟨entries, hgood⟩ | ⟨fault, failures, hbad⟩
      · rw [readRequests_of_good hgood]
        exact (ih _ _).of_good hgood
      · rw [readRequests_of_bad hbad]
        exact .stopped (List.nil_append _).symm (hnone s) hbad

/--
A read applies the samples of the good responses before the first bad one, in the order
of the requests, to store, times and counters.  The bad response adds none, and the
server is left as by just these requests: no later one is made.  The failures to read
grow by one if the response was not fetched or not parsed, else not at all.
-/
theorem read_applies_good_responses (poller : Poller) (server : Server σ) (gathered : Gathered)
    (s : σ) :
    let final := poller.read server (gathered, s)
    (∃ batches, List.Forall₂ (Good poller) (poller.fetchEach server poller.requests s).1 batches ∧
      Applied poller gathered batches.flatten 0 final.1 ∧
      final.2 = (poller.fetchEach server poller.requests s).2) ∨
    ∃ earlier request later batches fault failures, poller.requests = earlier ++ request :: later ∧
      List.Forall₂ (Good poller) (poller.fetchEach server earlier s).1 batches ∧
      Bad poller (fetch server poller.maxAttempts request
        (poller.fetchEach server earlier s).2).1 fault failures ∧
      Applied poller gathered batches.flatten failures final.1 ∧
      final.2 =
        (fetch server poller.maxAttempts request (poller.fetchEach server earlier s).2).2 := by
  intro final
  have hcourse : Course poller server poller.requests gathered s final :=
    course_readRequests poller server poller.requests gathered s
  generalize final = outcome at hcourse
  cases hcourse with
  | @finished batches good =>
      exact .inl ⟨batches, good, applied_takeAll poller gathered batches.flatten, rfl⟩
  | @stopped earlier later request batches fault failures split good bad =>
      exact .inr ⟨earlier, request, later, batches, fault, failures, split, good, bad,
        applied_giveUp (applied_takeAll poller gathered batches.flatten) bad, rfl⟩

end Poller

end IndexPrice.Feed.Poll
