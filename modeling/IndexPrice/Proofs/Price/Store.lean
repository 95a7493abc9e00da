import IndexPrice.Price.Store
import IndexPrice.Proofs.NameMap

/-!
# What a store holds

The sample of a market depends only on the samples offered for that market, in
their order: each replaces the one before unless its price is the same.  Offers for
different markets may change places.
-/

namespace IndexPrice.PriceStore

def hold (held : Option Sample) (sample : Sample) : Option Sample :=
  match held with
  | none => some sample
  | some stored => if stored.price == sample.price then some stored else some sample

def heldAfter (samples : List Sample) : Option Sample := samples.foldl hold none

@[simp] theorem heldAfter_nil : heldAfter [] = none := rfl

@[simp] theorem heldAfter_concat (samples : List Sample) (sample : Sample) :
    heldAfter (samples ++ [sample]) = hold (heldAfter samples) sample := by
  simp [heldAfter]

theorem eq_or_eq_of_hold {held : Option Sample} {sample kept : Sample}
    (h : hold held sample = some kept) : kept = sample ∨ held = some kept := by
  cases held with
  | none => exact .inl (Option.some.inj h).symm
  | some stored =>
      simp only [hold] at h
      split at h
      · exact .inr h
      · exact .inl (Option.some.inj h).symm

theorem load_offer (store : PriceStore) (market other : String) (sample : Sample) :
    (store.offer market sample).2.load other =
      if market = other then hold (store.load market) sample else store.load other := by
  unfold offer isNews
  cases hload : store.load market with
  | none =>
      simp only [if_true]
      exact store.get?_insert market other sample
  | some stored =>
      cases hsame : stored.price == sample.price with
      | true =>
          simp only [Bool.not_true, Bool.false_eq_true, if_false, hold, hsame, if_true]
          split
          · next heq => rw [← heq, hload]
          · rfl
      | false =>
          simp only [Bool.not_false, if_true, hold, hsame, Bool.false_eq_true, if_false]
          exact store.get?_insert market other sample

theorem offer_fst (store : PriceStore) (market : String) (sample : Sample) :
    (store.offer market sample).1 = store.isNews market sample := by
  unfold offer
  split
  · next hnews => exact hnews.symm
  · next hstale => exact (Bool.eq_false_iff.mpr hstale).symm

theorem offer_of_news {store : PriceStore} {market : String} {sample : Sample}
    (h : (store.offer market sample).1 = true) :
    (store.offer market sample).2 = store.insert market sample := by
  rw [offer_fst] at h
  rw [offer, if_pos h]

theorem offer_of_stale {store : PriceStore} {market : String} {sample : Sample}
    (h : (store.offer market sample).1 = false) : (store.offer market sample).2 = store := by
  rw [offer_fst] at h
  rw [offer, if_neg (by simp [h])]

/-! ## Offers for different markets -/

theorem offer_fst_of_ne (store : PriceStore) {market other : String} (ne : market ≠ other)
    (sample last : Sample) :
    ((store.offer market sample).2.offer other last).1 = (store.offer other last).1 := by
  rw [offer_fst, offer_fst, isNews, isNews, load_offer, if_neg ne]

theorem offer_comm (store : PriceStore) {market other : String} (ne : market ≠ other)
    (sample last : Sample) :
    ((store.offer market sample).2.offer other last).2 =
      ((store.offer other last).2.offer market sample).2 := by
  refine NameMap.ext_get? fun name => ?_
  change load _ name = load _ name
  simp only [load_offer, if_neg ne, if_neg ne.symm]
  by_cases hmarket : market = name
  · have hother : other ≠ name := fun heq => ne (hmarket.trans heq.symm)
    rw [if_neg hother, if_pos hmarket, if_pos hmarket]
  · rw [if_neg hmarket, if_neg hmarket]

/-! ## Samples offered one after another -/

def offerAll (store : PriceStore) : List (String × Sample) → List Bool × PriceStore
  | [] => ([], store)
  | entry :: entries =>
    let (isNews, after) := store.offer entry.1 entry.2
    let (answers, last) := offerAll after entries
    (isNews :: answers, last)

theorem offerAll_cons_of_stale {store : PriceStore} {entry : String × Sample}
    (h : (store.offer entry.1 entry.2).1 = false) (entries : List (String × Sample)) :
    (store.offerAll (entry :: entries)).2 = (store.offerAll entries).2 := by
  change ((store.offer entry.1 entry.2).2.offerAll entries).2 = _
  rw [offer_of_stale h]

theorem offerAll_concat (store : PriceStore) (entries : List (String × Sample))
    (entry : String × Sample) :
    store.offerAll (entries ++ [entry]) =
      ((store.offerAll entries).1 ++ [((store.offerAll entries).2.offer entry.1 entry.2).1],
        ((store.offerAll entries).2.offer entry.1 entry.2).2) := by
  induction entries generalizing store with
  | nil => rfl
  | cons first entries ih => simp [offerAll, ih]

def news (store : PriceStore) : List (String × Sample) → List (String × Sample)
  | [] => []
  | entry :: entries =>
    if (store.offer entry.1 entry.2).1 then
      entry :: news (store.offer entry.1 entry.2).2 entries
    else news store entries

theorem news_cons_of_news {store : PriceStore} {entry : String × Sample}
    (h : (store.offer entry.1 entry.2).1 = true) (entries : List (String × Sample)) :
    store.news (entry :: entries) = entry :: (store.offer entry.1 entry.2).2.news entries := by
  rw [news, if_pos h]

theorem news_cons_of_stale {store : PriceStore} {entry : String × Sample}
    (h : (store.offer entry.1 entry.2).1 = false) (entries : List (String × Sample)) :
    store.news (entry :: entries) = store.news entries := by
  rw [news, if_neg (by simp [h])]

def offeredFor (market : String) (entries : List (String × Sample)) : List Sample :=
  entries.filterMap fun entry => if entry.1 = market then some entry.2 else none

theorem offeredFor_append (market : String) (earlier later : List (String × Sample)) :
    offeredFor market (earlier ++ later) = offeredFor market earlier ++ offeredFor market later :=
  List.filterMap_append

theorem load_offerAll (store : PriceStore) (entries : List (String × Sample)) (market : String) :
    (store.offerAll entries).2.load market =
      (offeredFor market entries).foldl hold (store.load market) := by
  induction entries generalizing store with
  | nil => rfl
  | cons first entries ih =>
      rw [offerAll, ih, load_offer]
      by_cases hmarket : first.1 = market
      · simp [offeredFor, hmarket]
      · simp [offeredFor, hmarket]

end IndexPrice.PriceStore
