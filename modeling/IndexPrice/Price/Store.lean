import IndexPrice.NameMap
import IndexPrice.Price.Sample

/-!
# The latest prices of one source

A store holds the latest sample of each market.  A sample whose price equals the
stored one is dropped, so that the stored time says since when the price stands.
-/

namespace IndexPrice

abbrev PriceStore := NameMap Sample

namespace PriceStore

def load (store : PriceStore) (market : String) : Option Sample := store.get? market

def isNews (store : PriceStore) (market : String) (sample : Sample) : Bool :=
  match store.load market with
  | some stored => !(stored.price == sample.price)
  | none => true

/-- Offers a sample; the answer tells whether it was stored. -/
def offer (store : PriceStore) (market : String) (sample : Sample) : Bool × PriceStore :=
  if store.isNews market sample then (true, store.insert market sample) else (false, store)

end PriceStore

end IndexPrice
