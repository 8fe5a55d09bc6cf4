import ScriptValues.Payload.Basic
import ScriptValues.Ty.Feed

/-! Payloads as they are fed to a hasher.

The items of a set and the entries of a map are hashed one by one, by a hasher of their own, and only
the sum of the hashes is fed. -/

namespace ScriptValues

namespace Double

/-- The pattern that stands for a number: all zeros share one, and so do all patterns of no number. -/
def canonicalBits (x : Double) : UInt64 :=
  if x.isZero then 0 else if x.isNaN then 0x7ff8000000000000 else x.bits

end Double

def unorderedHash (digest : Feed → UInt64) (items : List Feed) : UInt64 :=
  items.foldl (fun sum item => sum + digest item) 0

namespace Payload

def form : Payload → Nat
  | null => 0
  | bool _ => 1
  | int _ => 2
  | float _ => 3
  | string _ => 4
  | graph _ => 5
  | variant _ => 6
  | callable _ => 7
  | prototype _ => 8
  | host _ => 9
  | list _ => 10
  | set _ => 11
  | map _ => 12

mutual

/-- What a payload feeds to a hasher, where `digest` hashes the items of sets and maps. -/
def feed (digest : Feed → UInt64) (p : Payload) : Feed :=
  .tag p.form ::
    match p with
    | null => []
    | bool b => [.byte (if b then 1 else 0)]
    | int n => [.int n]
    | float x => [.word x.canonicalBits]
    | string s => [.text s]
    | graph g => [.address g.identity]
    | variant v => v.feed
    | callable c => [.address c.identity]
    | prototype p => [.address p.id.index]
    | host h => [.address h.index]
    | list items => .count items.length :: (feeds digest items).flatten
    | set items => [.word (unorderedHash digest (feeds digest items))]
    | map entries => [.word (unorderedHash digest (entryFeeds digest entries))]

def feeds (digest : Feed → UInt64) : List Payload → List Feed
  | [] => []
  | p :: rest => p.feed digest :: feeds digest rest

def entryFeeds (digest : Feed → UInt64) : List (Payload × Payload) → List Feed
  | [] => []
  | (key, element) :: rest => (key.feed digest ++ element.feed digest) :: entryFeeds digest rest

end

end Payload

end ScriptValues
