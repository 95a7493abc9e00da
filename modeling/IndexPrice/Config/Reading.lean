import IndexPrice.Config.Basic
import IndexPrice.Toml.Record

/-!
# Reading the configuration

The shape of the configuration document: which fields each part has, which may be
left out, and what they then are.
-/

namespace IndexPrice

open Toml

def Ticker.ofItem : Decoder Ticker := fun item => do
  match ← recordFields? Ticker.fieldNames item with
  | [exchange, instrument, network, age] =>
    return {
      exchange := ← exchange.required Decoder.text
      instrument := ← instrument.required Decoder.text
      network := ← network.orElse "" Decoder.text
      maxUseAgeSecs := ← age.orElse none Decoder.nat.optional }
  | _ => none

namespace Config

def Service.ofItem : Decoder Service := fun item => do
  match ← recordFields? ["name", "log_level"] item with
  | [name, level] =>
    return { name := ← name.required Decoder.text, logLevel := ← level.orElse "info" Decoder.text }
  | _ => none

def Pricing.fieldNames : List String :=
  ["update_interval_secs", "default_max_use_age_secs", "reference_coin",
    "default_read_interval_secs", "default_read_timeout_secs"]

def Pricing.ofItem : Decoder Pricing := fun item => do
  let standard : Pricing := {}
  match ← recordFields? Pricing.fieldNames item with
  | [update, age, coin, interval, timeout] =>
    return {
      updateIntervalSecs := ← update.orElse standard.updateIntervalSecs Decoder.nat
      defaultMaxUseAgeSecs := ← age.orElse standard.defaultMaxUseAgeSecs Decoder.nat
      referenceCoin := ← coin.orElse standard.referenceCoin Decoder.text
      defaultReadIntervalSecs := ← interval.orElse standard.defaultReadIntervalSecs Decoder.nat
      defaultReadTimeoutSecs := ← timeout.orElse standard.defaultReadTimeoutSecs Decoder.nat }
  | _ => none

def Coin.ofItem : Decoder Coin := fun item => do
  match ← recordFields? ["coin_id", "tickers"] item with
  | [id, tickers] =>
    return {
      id := ← id.required Decoder.text
      tickers := ← tickers.orElse [] (Decoder.list Ticker.ofItem) }
  | _ => none

def Timing.ofItem : Decoder Timing := fun item => do
  match ← recordFields? ["exchange_id", "read_interval_secs", "read_timeout_secs"] item with
  | [exchange, interval, timeout] =>
    return {
      exchange := ← exchange.required Decoder.text
      readIntervalSecs := ← interval.optional Decoder.nat
      readTimeoutSecs := ← timeout.optional Decoder.nat }
  | _ => none

def Market.ofItem : Decoder Market := fun item => do
  match ← recordFields? ["market_id", "multiplier", "max_use_age_secs", "sources"] item with
  | [id, multiplier, age, sources] =>
    return {
      id := ← id.required Decoder.text
      multiplier := ← multiplier.orElse 1.0 Decoder.float
      maxUseAgeSecs := ← age.optional Decoder.nat
      sources := ← sources.orElse [] (Decoder.list Ticker.ofItem) }
  | _ => none

def Monitoring.ofItem : Decoder Monitoring := fun item => do
  let standard : Monitoring := {}
  match ← recordFields? ["enabled", "bind_address"] item with
  | [enabled, address] =>
    return {
      enabled := ← enabled.orElse standard.enabled Decoder.bool
      bindAddress := ← address.orElse standard.bindAddress Decoder.text }
  | _ => none

def ofEntries? (entries : Entries) : Option Config := do
  let part := namedItem entries
  return {
    service := ← (part "oracle").required Service.ofItem
    pricing := ← (part "pricing").orElse {} Pricing.ofItem
    coins := ← (part "coins").orElse [] (Decoder.list Coin.ofItem)
    timings := ← (part "exchanges").orElse [] (Decoder.list Timing.ofItem)
    markets := ← (part "markets").required (Decoder.list Market.ofItem)
    monitoring := ← (part "metrics").orElse {} Monitoring.ofItem }

end Config

end IndexPrice
