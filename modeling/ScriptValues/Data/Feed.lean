/-! What a hasher is fed.

A value is fed piece by piece. A text is closed off, so no text runs into what is fed after it; all
other pieces have a fixed width. What a hasher makes of it is up to the hasher. -/

namespace ScriptValues

/-- One piece of the data. A tag says which form follows, a count how many items, and an address
which of the things that have an identity is meant. -/
inductive FeedPiece where
  | tag (form : Nat)
  | count (n : Nat)
  | byte (b : UInt8)
  | int (n : Int64)
  | word (bits : UInt64)
  | text (s : String)
  | address (identity : Nat)
  deriving DecidableEq

abbrev Feed := List FeedPiece

end ScriptValues
