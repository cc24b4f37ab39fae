import CandleFeed.Config.Basic

/-!
# What a client needs to know

**`ClientSettings`** are the settings that a client keeps to: whom it presents itself as, the fields
it asks for, how long it waits for a word from the provider, when a connection counts as stable, and
how long it waits between attempts.
-/

namespace CandleFeed

/-- The settings of a client; lengths of time are in nanoseconds. -/
structure ClientSettings where
  /-- The account's token. -/
  authToken : Option String
  /-- The fields of a quote. -/
  quoteFields : List String
  /-- How long the provider may be silent, and how long a write may take. -/
  heartbeatTimeout : Nat
  /-- After how long a connection counts as stable. -/
  stabilityWindow : Nat
  /-- The waits between attempts. -/
  backoff : Backoff
deriving DecidableEq, Repr

/-- The settings of a client among all settings. -/
def ClientSettings.ofConfig (c : FeedConfig) : ClientSettings where
  authToken := c.provider.authToken
  quoteFields := c.provider.quoteFields
  heartbeatTimeout := c.connection.heartbeatTimeoutSecs * Clock.second
  stabilityWindow := c.connection.stabilityWindowSecs * Clock.second
  backoff := c.connection.backoff

end CandleFeed
