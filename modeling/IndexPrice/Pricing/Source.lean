import IndexPrice.Text.Quoted

/-!
# Sources

What is known of the feed of an exchange once it has been started.
-/

namespace IndexPrice.Pricing

structure Source where
  /-- Market ids in ascending order. -/
  markets : List String
  urls : List String
  deriving DecidableEq, Repr

def quotedList (texts : List String) : String := String.intercalate ", " (texts.map Text.quoted)

def Source.describe (source : Source) : String :=
  "SourceSnapshot \x7b markets: \x7b" ++ quotedList source.markets ++ "\x7d, urls: ["
    ++ quotedList source.urls ++ "], .. \x7d"

end IndexPrice.Pricing
