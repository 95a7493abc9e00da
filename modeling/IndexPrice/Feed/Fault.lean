import IndexPrice.Decimal.Reading
import IndexPrice.Text.Quoted

/-!
# What can be wrong with a payload

The causes for which a payload of an exchange gives no price, or tickers give no
requests.  The wording is in `PayloadFault.message` alone.
-/

namespace IndexPrice.Feed

inductive NumberFault where
  | float (fault : Decimal.FloatTextError)
  | integer (fault : Decimal.IntegerTextError)
  | notANumber
  | notAnInteger
  deriving DecidableEq, Repr

inductive TimestampFault where
  | float (fault : Decimal.FloatTextError)
  | outOfRange
  | notATimestamp
  deriving DecidableEq, Repr

inductive ShapeFault where
  | tickerWithoutTime
  | noRows
  | rowLength (entries : Nat)
  | entryNotText (index : Nat)
  | noQuote (currency coin : String)
  deriving DecidableEq, Repr

inductive TickerFault where
  | noReference (provider : String)
  | noNetworkReference (network : String)
  deriving DecidableEq, Repr

inductive PayloadFault where
  | malformed
  | number (value : String) (fault : NumberFault)
  | timestamp (value : String) (fault : TimestampFault)
  | shape (fault : ShapeFault)
  | tickers (fault : TickerFault)
  deriving DecidableEq, Repr

/-! ## Wording -/

def NumberFault.message : NumberFault → String
  | .float fault => fault.message
  | .integer fault => fault.message
  | .notANumber => "not a number"
  | .notAnInteger => "not an integer"

def TimestampFault.message : TimestampFault → String
  | .float fault => fault.message
  | .outOfRange => "out of range"
  | .notATimestamp => "input contains invalid characters"

def ShapeFault.message : ShapeFault → String
  | .tickerWithoutTime => "ticker without time"
  | .noRows => "no candle rows"
  | .rowLength entries => "candle row has " ++ toString entries ++ " entries, expected 6"
  | .entryNotText index => "ohlc entry " ++ toString index ++ " is not a string"
  | .noQuote currency coin => "no quote in " ++ currency ++ " for coin " ++ coin

def TickerFault.message : TickerFault → String
  | .noReference provider => "no reference ticker for " ++ provider
  | .noNetworkReference network =>
    "geckoterminal has no reference ticker for network " ++ Text.quoted network

def PayloadFault.message : PayloadFault → String
  | .malformed => "malformed payload"
  | .number value fault => "invalid number " ++ Text.quoted value ++ ": " ++ fault.message
  | .timestamp value fault => "invalid timestamp " ++ Text.quoted value ++ ": " ++ fault.message
  | .shape fault => "unexpected payload shape: " ++ fault.message
  | .tickers fault => "invalid ticker configuration: " ++ fault.message

end IndexPrice.Feed
