import IndexPrice.Proofs.Feed.Routing
import Mathlib.Data.List.Nodup

/-!
# Prices of a response in any order

A response lists its prices in no particular order.  Each instrument is one market's at
most and each market has one instrument, so a response has one sample for a market at
most.  Samples of different markets do not touch one another's cells, so that a read
leaves the same behind whichever order the prices come in.
-/

namespace IndexPrice.Feed.Poll

def Listed (poller : Poller) (raw : RawPrices) (entries : List (String × Sample)) : Prop :=
  ∃ divisor, ∃ order : List (String × Sample),
    poller.divisor raw = .ok divisor ∧ order.Perm raw.entries ∧
    entries = order.filterMap (poller.marketSample? divisor)

/-- What a read of these requests may lead to, whatever the order of the prices in each response. -/
inductive Reads {σ : Type} (poller : Poller) (server : Server σ) :
    List Request → Gathered × σ → Gathered × σ → Prop
  | finished (state : Gathered × σ) : Reads poller server [] state state
  | taken {request : Request} {rest : List Request} {gathered : Gathered} {s : σ} {body : Body}
      {received : Instant} {raw : RawPrices} {entries : List (String × Sample)}
      {final : Gathered × σ}
      (complete : (fetch server poller.maxAttempts request s).1 = .ok (body, received))
      (parsed : poller.format.parse received poller.reference body = .ok raw)
      (listed : Listed poller raw entries)
      (onward : Reads poller server rest
        (poller.takeAll gathered entries, (fetch server poller.maxAttempts request s).2) final) :
      Reads poller server (request :: rest) (gathered, s) final
  | stopped {request : Request} {rest : List Request} {gathered : Gathered} {s : σ}
      {fault : ReadFault} {failures : Nat}
      (bad : Bad poller (fetch server poller.maxAttempts request s).1 fault failures) :
      Reads poller server (request :: rest) (gathered, s)
        (poller.giveUp gathered fault, (fetch server poller.maxAttempts request s).2)

namespace Poller

variable {poller : Poller}

/-! ## Samples of different markets -/

private theorem take_comm (poller : Poller) (gathered : Gathered) {entry other : String × Sample}
    (ne : entry.1 ≠ other.1) :
    poller.take (poller.take gathered entry) other =
      poller.take (poller.take gathered other) entry := by
  simp only [take_eq, PriceStore.offer_fst_of_ne _ ne, PriceStore.offer_fst_of_ne _ ne.symm,
    PriceStore.offer_comm _ ne]
  -- each sample is news or not, whether or not the other one has been taken before
  cases (gathered.store.offer entry.1 entry.2).1 with
  | false => rfl
  | true =>
      cases (gathered.store.offer other.1 other.2).1 with
      | false => rfl
      | true => simp only [if_true, gathered.lastData.insert_comm ne]

theorem takeAll_of_perm (poller : Poller) (gathered : Gathered)
    {entries others : List (String × Sample)} (once : (entries.map (·.1)).Nodup)
    (perm : entries.Perm others) :
    poller.takeAll gathered entries = poller.takeAll gathered others := by
  refine perm.foldl_eq' (fun entry hentry other hother between => ?_) gathered
  by_cases hsame : entry.1 = other.1
  · rw [List.inj_on_of_nodup_map once hentry hother hsame]
  · exact poller.take_comm between hsame

end Poller

/-! ## Responses -/

namespace Listed

variable {poller : Poller} {raw : RawPrices} {entries others : List (String × Sample)}

theorem of_convert (h : poller.convert raw = .ok entries) : Listed poller raw entries := by
  obtain ⟨divisor, hdivisor, rfl⟩ := Poller.convert_eq_ok h
  exact ⟨divisor, raw.entries, hdivisor, .refl _, rfl⟩

private theorem perm (h : Listed poller raw entries) (other : Listed poller raw others) :
    entries.Perm others := by
  obtain ⟨divisor, order, hdivisor, hperm, rfl⟩ := h
  obtain ⟨divisor', order', hdivisor', hperm', rfl⟩ := other
  obtain rfl := Except.ok.inj (hdivisor.symm.trans hdivisor')
  exact (hperm.trans hperm'.symm).filterMap _

private theorem once (h : Listed poller raw entries) : (entries.map (·.1)).Nodup := by
  obtain ⟨divisor, order, hdivisor, hperm, rfl⟩ := h
  exact ((hperm.filterMap _).map _).nodup_iff.mpr (Poller.nodup_marketSamples poller divisor raw)

private theorem exists_convert (h : Listed poller raw entries) :
    ∃ converted, poller.convert raw = .ok converted := by
  obtain ⟨divisor, order, hdivisor, hperm, rfl⟩ := h
  exact ⟨_, by rw [Poller.convert, hdivisor]; rfl⟩

end Listed

/-! ## Reads -/

namespace Reads

variable {σ : Type} {poller : Poller} {server : Server σ} {requests : List Request}
  {state final : Gathered × σ}

private theorem of_readRequests (poller : Poller) (server : Server σ) (requests : List Request)
    (gathered : Gathered) (s : σ) :
    Reads poller server requests (gathered, s)
      (poller.readRequests server requests (gathered, s)) := by
  induction requests generalizing gathered s with
  | nil => exact .finished _
  | cons request rest ih =>
      rcases Poller.good_or_bad poller (fetch server poller.maxAttempts request s).1 with
        ⟨entries, hgood⟩ | ⟨fault, _, hbad⟩
      · rw [Poller.readRequests_of_good hgood]
        obtain ⟨body, received, raw, hcomplete, hparsed, hconverted⟩ := hgood
        exact .taken hcomplete hparsed (Listed.of_convert hconverted) (ih _ _)
      · rw [Poller.readRequests_of_bad hbad]
        exact .stopped hbad

private theorem eq_readRequests (h : Reads poller server requests state final) :
    final = poller.readRequests server requests state := by
  induction h with
  | finished state => rfl
  | @taken request rest gathered s body received raw entries final complete parsed listed _ ih =>
      obtain ⟨converted, hconverted⟩ := listed.exists_convert
      have hgood : Good poller (fetch server poller.maxAttempts request s).1 converted :=
        ⟨body, received, raw, complete, parsed, hconverted⟩
      rw [Poller.readRequests_of_good hgood, ih, Poller.takeAll_of_perm poller gathered listed.once
        (listed.perm (Listed.of_convert hconverted))]
  | stopped bad => rw [Poller.readRequests_of_bad bad]

end Reads

/--
Whatever the order of its prices, a response gives one sample for a market at most, and
a read leaves the same store, times and counters behind, whatever was there before.
-/
theorem Poller.read_of_any_order (poller : Poller) :
    (∀ raw entries, poller.convert raw = .ok entries → Listed poller raw entries) ∧
    (∀ raw entries, Listed poller raw entries → (entries.map (·.1)).Nodup) ∧
    (∀ raw entries others, Listed poller raw entries → Listed poller raw others →
      entries.Perm others ∧ ∀ gathered,
        poller.takeAll gathered entries = poller.takeAll gathered others) ∧
    ∀ {σ : Type} (server : Server σ) (state final : Gathered × σ),
      Reads poller server poller.requests state final ↔ final = poller.read server state := by
  refine ⟨fun _ _ => Listed.of_convert, fun _ _ => Listed.once, ?_, ?_⟩
  · intro raw entries others hlisted hother
    have hperm := hlisted.perm hother
    exact ⟨hperm, fun gathered => Poller.takeAll_of_perm poller gathered hlisted.once hperm⟩
  · intro σ server state final
    constructor
    · exact Reads.eq_readRequests
    · rintro rfl
      exact Reads.of_readRequests poller server poller.requests state.1 state.2

end IndexPrice.Feed.Poll
