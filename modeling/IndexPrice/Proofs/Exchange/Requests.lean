import IndexPrice.Exchange.CoinGecko
import IndexPrice.Exchange.CoinMarketCap
import IndexPrice.Exchange.GeckoTerminal
import IndexPrice.Proofs.Decimal.Comparison
import IndexPrice.Proofs.Feed.Routing
import IndexPrice.Proofs.List

/-!
# Requests of polled providers and what their responses give

The requests of a provider are made from inquiries: some tickers, and the reference
ticker that goes with them.  Every ticker is in exactly one inquiry.  A response with
a price for each name of an inquiry is converted by the price of the reference ticker
of that inquiry, and gives one sample for each market that the inquiry names.
-/

namespace IndexPrice.Exchange

open Feed Feed.Poll

inductive Provider where
  | coinGecko
  | coinMarketCap
  | geckoTerminal
  deriving DecidableEq

/-- What one request asks for: tickers, and the reference ticker that goes with them. -/
structure Inquiry where
  tickers : List Ticker
  reference : Ticker
  deriving DecidableEq

namespace Provider

def format (apiKey : String) : Provider → Format
  | .coinGecko => CoinGecko.format apiKey
  | .coinMarketCap => CoinMarketCap.format apiKey
  | .geckoTerminal => GeckoTerminal.format apiKey

def names (inquiry : Inquiry) : Provider → List String
  | .coinGecko => inquiry.reference.instrument :: inquiry.tickers.map (·.instrument)
  | .coinMarketCap => inquiry.tickers.map (·.instrument)
  | .geckoTerminal => inquiry.tickers.map (·.instrument) ++ [inquiry.reference.instrument]

def list (inquiry : Inquiry) (provider : Provider) : String :=
  String.intercalate "," (provider.names inquiry)

def request (apiKey : String) (inquiry : Inquiry) : Provider → Request
  | .coinGecko => {
      url := "https://pro-api.coingecko.com/api/v3/simple/price"
      query := [
        ("ids", Provider.coinGecko.list inquiry),
        ("include_last_updated_at", "true"),
        ("precision", "full"),
        ("vs_currencies", "usd")]
      headers := CoinGecko.headers apiKey }
  | .coinMarketCap => {
      url := "https://pro-api.coinmarketcap.com/v2/cryptocurrency/quotes/latest"
      query := [
        ("id", Provider.coinMarketCap.list inquiry),
        ("convert_id", inquiry.reference.instrument)]
      headers := [("Accepts", "application/json"), ("X-CMC_PRO_API_KEY", apiKey)] }
  | .geckoTerminal => {
      url := "https://api.geckoterminal.com/api/v2/networks/" ++ inquiry.reference.network ++
        "/tokens/multi/" ++ Provider.geckoTerminal.list inquiry
      query := []
      headers := CoinGecko.headers apiKey }

/-- The reference ticker that goes with a ticker: the first one, or the first of its network. -/
def referenceFor? (reference : List Ticker) (ticker : Ticker) : Provider → Option Ticker
  | .geckoTerminal => reference.find? (·.network = ticker.network)
  | _ => reference.head?

def divisor? (inquiry : Inquiry) (raw : RawPrices) : Provider → Option Float
  | .coinMarketCap => some 1.0
  | _ => (raw.get? inquiry.reference.instrument).map (·.price)

def Unaskable (tickers reference : List Ticker) : Provider → Prop
  | .geckoTerminal => ∃ ticker ∈ tickers, ∀ coin ∈ reference, coin.network ≠ ticker.network
  | _ => reference = []

end Provider

/-! ## Reading the names of a request -/

def listed (text : List Char) : List String :=
  if text = [] then [] else (text.splitOn ',').map String.ofList

def Provider.named (request : Request) : Provider → List String
  | .coinGecko => listed ((request.query.lookup "ids").getD "").toList
  | .coinMarketCap => listed ((request.query.lookup "id").getD "").toList
  | .geckoTerminal => listed (request.url.toList.rtakeWhile (· ≠ '/'))

/-- A name that can be told from its neighbours in a list and in a path. -/
structure Plain (name : String) : Prop where
  nonempty : name ≠ ""
  comma : ',' ∉ name.toList
  slash : '/' ∉ name.toList

private theorem listed_intercalate {names : List String} (plain : ∀ name ∈ names, Plain name) :
    listed (String.intercalate "," names).toList = names := by
  rw [String.toList_intercalate]
  change listed ([','].intercalate (names.map String.toList)) = names
  by_cases hnames : names = []
  · subst hnames
    rfl
  · have hsplit : ([','].intercalate (names.map String.toList)).splitOn ',' =
        names.map String.toList := by
      refine List.splitOn_intercalate ',' ?_ (by simpa using hnames)
      intro chars hchars
      obtain ⟨name, hname, rfl⟩ := List.mem_map.mp hchars
      exact (plain name hname).comma
    have hne : [','].intercalate (names.map String.toList) ≠ [] := by
      intro hempty
      rw [hempty, List.splitOn_nil] at hsplit
      cases names with
      | nil => exact hnames rfl
      | cons name rest =>
          have hfirst : name.toList = [] := (List.cons.inj hsplit).1.symm
          exact (plain name List.mem_cons_self).nonempty (String.toList_eq_nil_iff.mp hfirst)
    rw [listed, if_neg hne, hsplit, List.map_map]
    simp

private theorem slash_notMem_intercalate {names : List String}
    (plain : ∀ name ∈ names, Plain name) :
    '/' ∉ (String.intercalate "," names).toList := by
  induction names with
  | nil => simp
  | cons name rest ih =>
      have hname := (plain name List.mem_cons_self).slash
      cases rest with
      | nil => simpa using hname
      | cons next others =>
          have hrest := ih fun other hother => plain other (List.mem_cons_of_mem _ hother)
          rw [String.intercalate_cons_cons]
          simp only [String.toList_append, List.mem_append, not_or]
          exact ⟨⟨hname, by decide⟩, hrest⟩

private theorem rtakeWhile_path (path : List Char) {last : List Char} (h : '/' ∉ last) :
    (path ++ '/' :: last).rtakeWhile (· ≠ '/') = last := by
  induction last using List.reverseRecOn with
  | nil => exact List.rtakeWhile_concat_neg _ _ _ (by decide)
  | append_singleton last c ih =>
      obtain ⟨hlast, hc⟩ : '/' ∉ last ∧ '/' ≠ c := by simpa using h
      rw [← List.cons_append, ← List.append_assoc, List.rtakeWhile_concat_pos, ih hlast]
      simpa using hc.symm

theorem named_request (provider : Provider) (apiKey : String) {inquiry : Inquiry}
    (plain : ∀ name ∈ provider.names inquiry, Plain name) :
    provider.named (provider.request apiKey inquiry) = provider.names inquiry := by
  have hlisted : listed (provider.list inquiry).toList = provider.names inquiry :=
    listed_intercalate plain
  cases provider with
  | coinGecko =>
      have hids : (Provider.coinGecko.request apiKey inquiry).query.lookup "ids" =
          some (Provider.coinGecko.list inquiry) := rfl
      rw [Provider.named, hids, Option.getD_some, hlisted]
  | coinMarketCap =>
      have hids : (Provider.coinMarketCap.request apiKey inquiry).query.lookup "id" =
          some (Provider.coinMarketCap.list inquiry) := rfl
      rw [Provider.named, hids, Option.getD_some, hlisted]
  | geckoTerminal =>
      have hurl : (Provider.geckoTerminal.request apiKey inquiry).url =
          "https://api.geckoterminal.com/api/v2/networks/" ++ inquiry.reference.network ++
            "/tokens/multi/" ++ Provider.geckoTerminal.list inquiry := rfl
      have hpath : "/tokens/multi/".toList = "/tokens/multi".toList ++ ['/'] := rfl
      have hslash : '/' ∉ (Provider.geckoTerminal.list inquiry).toList :=
        slash_notMem_intercalate plain
      rw [Provider.named, hurl, String.toList_append, String.toList_append, hpath,
        ← List.append_assoc, List.append_assoc, List.singleton_append,
        rtakeWhile_path _ hslash, hlisted]

/-! ## Tickers of a network -/

theorem network_of_find? {reference : List Ticker} {network : String} {coin : Ticker}
    (h : reference.find? (·.network = network) = some coin) : coin.network = network := by
  simpa using List.find?_some h

def ofNetwork (tickers : List Ticker) (network : String) : List Ticker :=
  tickers.filter (·.network = network)

private theorem mem_ofNetwork {tickers : List Ticker} {network : String} {ticker : Ticker} :
    ticker ∈ ofNetwork tickers network ↔ ticker ∈ tickers ∧ ticker.network = network := by
  simp [ofNetwork]

private theorem get?_byNetwork (tickers : List Ticker) (network : String) :
    (GeckoTerminal.byNetwork tickers).get? network =
      if ofNetwork tickers network = [] then none
      else some ((ofNetwork tickers network).map (·.instrument)) := by
  unfold GeckoTerminal.byNetwork ofNetwork
  -- from the end, because every ticker is put behind those of its network
  induction tickers using List.reverseRecOn with
  | nil => rfl
  | append_singleton tickers ticker ih =>
      rw [List.foldl_append, List.foldl_cons, List.foldl_nil, NameMap.update, NameMap.get?_insert,
        List.filter_append]
      by_cases hnetwork : ticker.network = network
      · subst hnetwork
        have hsome : tickers.filter (·.network = ticker.network) ++ [ticker] ≠ [] := by simp
        rw [if_pos rfl, ih, List.filter_cons_of_pos (by simp), List.filter_nil, if_neg hsome,
          List.map_append]
        split
        · next hnone => rw [hnone]; rfl
        · rfl
      · simp [hnetwork, ih]

theorem mem_byNetwork {tickers : List Ticker} {network : String} {addresses : List String} :
    (network, addresses) ∈ (GeckoTerminal.byNetwork tickers).entries ↔
      ofNetwork tickers network ≠ [] ∧
        addresses = (ofNetwork tickers network).map (·.instrument) := by
  rw [NameMap.mem_entries_iff, get?_byNetwork]
  split
  · next hnone => simp [hnone]
  · next hsome => simp [hsome, eq_comm]

private theorem mem_names_byNetwork {tickers : List Ticker} {network : String} :
    network ∈ (GeckoTerminal.byNetwork tickers).names ↔
      ∃ ticker ∈ tickers, ticker.network = network := by
  have hofNetwork : ofNetwork tickers network ≠ [] ↔
      ∃ ticker ∈ tickers, ticker.network = network := by
    simp [ofNetwork]
  rw [NameMap.names, List.mem_map, ← hofNetwork]
  constructor
  · rintro ⟨⟨name, addresses⟩, hentry, rfl⟩
    exact (mem_byNetwork.mp hentry).1
  · intro hnetwork
    exact ⟨(network, _), mem_byNetwork.mpr ⟨hnetwork, rfl⟩, rfl⟩

theorem request_eq_ok {apiKey network : String} {reference tickers : List Ticker}
    {request : Request} :
    GeckoTerminal.request apiKey reference network (tickers.map (·.instrument)) = .ok request ↔
      ∃ coin, reference.find? (·.network = network) = some coin ∧
        request = Provider.geckoTerminal.request apiKey ⟨tickers, coin⟩ := by
  unfold GeckoTerminal.request
  cases hcoin : reference.find? (·.network = network) with
  | none => simp
  | some coin =>
      obtain rfl := network_of_find? hcoin
      simp only [Except.ok.injEq, Option.some.injEq, exists_eq_left']
      exact eq_comm

/-! ## Inquiries -/

/-- Every ticker is in one inquiry, along with the reference ticker that goes with it. -/
structure Arranged (provider : Provider) (tickers reference : List Ticker)
    (inquiries : List Inquiry) : Prop where
  once : ∀ ticker ∈ tickers, inquiries.countP (ticker ∈ ·.tickers) = 1
  known : ∀ inquiry ∈ inquiries, inquiry.tickers ⊆ tickers
  coin : ∀ inquiry ∈ inquiries, inquiry.reference ∈ reference
  own : ∀ inquiry ∈ inquiries, ∀ ticker ∈ inquiry.tickers,
    provider.referenceFor? reference ticker = some inquiry.reference

private theorem inquiries_of_entries {apiKey : String} {tickers reference : List Ticker}
    {entries : List (String × List String)} {requests : List Request}
    (known : ∀ entry ∈ entries, entry.2 = (ofNetwork tickers entry.1).map (·.instrument))
    (h : entries.mapM (fun entry => GeckoTerminal.request apiKey reference entry.1 entry.2) =
      .ok requests) :
    ∃ inquiries : List Inquiry,
      requests = inquiries.map (Provider.geckoTerminal.request apiKey) ∧
      inquiries.map (·.reference.network) = entries.map (·.1) ∧
      ∀ inquiry ∈ inquiries, inquiry.tickers = ofNetwork tickers inquiry.reference.network ∧
        reference.find? (·.network = inquiry.reference.network) = some inquiry.reference := by
  induction entries generalizing requests with
  | nil =>
      cases h
      exact ⟨[], rfl, rfl, by simp⟩
  | cons entry rest ih =>
      obtain ⟨request, others, hrequest, hothers, rfl⟩ := mapM_cons_eq_ok.mp h
      obtain ⟨inquiries, rfl, hnetworks, hinquiries⟩ :=
        ih (fun other hother => known other (List.mem_cons_of_mem _ hother)) hothers
      rw [known entry List.mem_cons_self, request_eq_ok] at hrequest
      obtain ⟨coin, hcoin, rfl⟩ := hrequest
      -- so the network of an inquiry can be read off its reference ticker
      have hnetwork : coin.network = entry.1 := network_of_find? hcoin
      refine ⟨⟨ofNetwork tickers entry.1, coin⟩ :: inquiries, rfl, ?_, ?_⟩
      · rw [List.map_cons, List.map_cons, hnetwork, hnetworks]
      · rw [List.forall_mem_cons]
        exact ⟨by rw [hnetwork]; exact ⟨rfl, hcoin⟩, hinquiries⟩

private theorem arranged_of_networks {tickers reference : List Ticker} {inquiries : List Inquiry}
    (networks : inquiries.map (·.reference.network) = (GeckoTerminal.byNetwork tickers).names)
    (own : ∀ inquiry ∈ inquiries, inquiry.tickers = ofNetwork tickers inquiry.reference.network ∧
      reference.find? (·.network = inquiry.reference.network) = some inquiry.reference) :
    Arranged .geckoTerminal tickers reference inquiries := by
  refine ⟨?_, ?_, ?_, ?_⟩
  · intro ticker hticker
    -- inquiries have different networks, so only one has that of the ticker
    have hnodup : (inquiries.map (·.reference.network)).Nodup := by
      rw [networks]
      exact (NameMap.names_pairwise _).imp String.ne_of_lt
    have hmem : ticker.network ∈ inquiries.map (·.reference.network) := by
      rw [networks, mem_names_byNetwork]
      exact ⟨ticker, hticker, rfl⟩
    calc
      inquiries.countP (ticker ∈ ·.tickers)
        = inquiries.countP (fun inquiry => inquiry.reference.network == ticker.network) := by
            refine List.countP_congr fun inquiry hinquiry => ?_
            rw [decide_eq_true_iff, (own inquiry hinquiry).1, mem_ofNetwork, beq_iff_eq, eq_comm]
            exact and_iff_right hticker
      _ = (inquiries.map (·.reference.network)).count ticker.network := by
            rw [List.count_eq_countP, List.countP_map]
            rfl
      _ = 1 := List.count_eq_one_of_mem hnodup hmem
  · intro inquiry hinquiry ticker hticker
    rw [(own inquiry hinquiry).1] at hticker
    exact (mem_ofNetwork.mp hticker).1
  · intro inquiry hinquiry
    exact List.mem_of_find?_eq_some (own inquiry hinquiry).2
  · intro inquiry hinquiry ticker hticker
    rw [(own inquiry hinquiry).1] at hticker
    rw [Provider.referenceFor?, (mem_ofNetwork.mp hticker).2]
    exact (own inquiry hinquiry).2

private theorem arranged_singleton {provider : Provider} (single : provider ≠ .geckoTerminal)
    (tickers : List Ticker) (first : Ticker) (rest : List Ticker) :
    Arranged provider tickers (first :: rest) [⟨tickers, first⟩] := by
  refine ⟨?_, ?_, ?_, ?_⟩
  · intro ticker hticker
    simp [hticker]
  · simp
  · simp
  · intro inquiry hinquiry ticker _
    rw [List.mem_singleton.mp hinquiry]
    cases provider with
    | coinGecko => rfl
    | coinMarketCap => rfl
    | geckoTerminal => exact absurd rfl single

theorem arranged_of_requests {provider : Provider} {apiKey : String}
    {tickers reference : List Ticker} {requests : List Request}
    (h : (provider.format apiKey).requests tickers reference = .ok requests) :
    ∃ inquiries, requests = inquiries.map (provider.request apiKey) ∧
      Arranged provider tickers reference inquiries := by
  cases provider with
  | geckoTerminal =>
      obtain ⟨inquiries, hrequests, hnetworks, hown⟩ :=
        inquiries_of_entries (fun entry hentry => (mem_byNetwork.mp hentry).2) h
      exact ⟨inquiries, hrequests, arranged_of_networks hnetworks hown⟩
  | _ =>
      cases reference with
      | nil => cases h
      | cons first rest =>
          cases h
          exact ⟨[⟨tickers, first⟩], rfl, arranged_singleton (by decide) tickers first rest⟩

private theorem exists_request {apiKey : String} {tickers reference : List Ticker}
    {entry : String × List String} (h : entry ∈ (GeckoTerminal.byNetwork tickers).entries) :
    (∃ request, GeckoTerminal.request apiKey reference entry.1 entry.2 = .ok request) ↔
      ∃ coin ∈ reference, coin.network = entry.1 := by
  rw [(mem_byNetwork.mp h).2]
  simp only [request_eq_ok]
  cases hcoin : reference.find? (·.network = entry.1) with
  | none => simpa using hcoin
  | some coin =>
      exact iff_of_true ⟨_, coin, rfl, rfl⟩
        ⟨coin, List.mem_of_find?_eq_some hcoin, network_of_find? hcoin⟩

private theorem exists_networkRequests {apiKey : String} {tickers reference : List Ticker} :
    (∃ requests, GeckoTerminal.requests apiKey tickers reference = .ok requests) ↔
      ∀ ticker ∈ tickers, ∃ coin ∈ reference, coin.network = ticker.network := by
  unfold GeckoTerminal.requests
  rw [exists_mapM_eq_ok]
  constructor
  · intro hall ticker hticker
    obtain ⟨entry, hentry, hnetwork⟩ :=
      List.mem_map.mp (mem_names_byNetwork.mpr ⟨ticker, hticker, rfl⟩)
    rw [← hnetwork]
    exact (exists_request hentry).mp (hall entry hentry)
  · intro hall entry hentry
    obtain ⟨ticker, hticker, hnetwork⟩ := mem_names_byNetwork.mp (List.mem_map_of_mem hentry)
    rw [exists_request hentry, ← hnetwork]
    exact hall ticker hticker

theorem exists_requests {provider : Provider} {apiKey : String} {tickers reference : List Ticker} :
    (∃ requests, (provider.format apiKey).requests tickers reference = .ok requests) ↔
      ¬ provider.Unaskable tickers reference := by
  cases provider with
  | geckoTerminal =>
      refine exists_networkRequests.trans ?_
      rw [Provider.Unaskable]
      push Not
      exact Iff.rfl
  | _ =>
      cases reference with
      | nil => exact iff_of_false nofun (fun h => h rfl)
      | cons first rest => exact iff_of_true ⟨_, rfl⟩ (List.cons_ne_nil first rest)

end IndexPrice.Exchange
