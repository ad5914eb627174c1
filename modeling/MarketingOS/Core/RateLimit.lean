import Mathlib.Data.Rat.Floor
import MarketingOS.Base.Dict
import MarketingOS.Base.SlidingWindow
import MarketingOS.Base.StableSort

/-!
# Rate limiting

The two back-ends of the limiter: the store in the memory of a process, and the store whose Redis
script keeps one sorted set for each key. Clock readings are exact numbers of seconds. The clock
of the Redis server reads what the caller reads.
-/
namespace MarketingOS

open SlidingWindow (Backend Call Limit)

/-- A clock reading, or a span, in seconds. -/
abbrev Seconds : Type := ℚ

/-- A scope and a key of it. -/
abbrev ScopedKey : Type := String × String

/-! ## The store in memory -/

/-- `MemoryRateLimitStore` — the hits of every key of every scope, oldest first. -/
structure MemoryRateLimitStore where
  hits : Dict String (Dict String (List Seconds))
  lastSweepAt : Seconds
deriving DecidableEq

namespace MemoryRateLimitStore

/-- `_BUCKET_TTL_SECONDS` -/
def bucketTtlSeconds : Seconds := 3600

/-- `_SWEEP_INTERVAL_SECONDS` -/
def sweepIntervalSeconds : Seconds := 300

/-- `_MAX_KEYS_PER_SCOPE` -/
def maxKeysPerScope : Nat := 50000

/-- `__init__` -/
def init : MemoryRateLimitStore := ⟨.empty, 0⟩

/-- Whether the newest hit of a bucket has aged out; a bucket without hits has. -/
def stale (before : Seconds) (bucket : List Seconds) : Bool :=
  bucket.getLast?.all (· ≤ before)

/-- `_prune` -/
def prune (store : MemoryRateLimitStore) (now : Seconds) : MemoryRateLimitStore :=
  if now - store.lastSweepAt < sweepIntervalSeconds then store
  else
    let fresh := store.hits.mapValues fun keys =>
      keys.filter fun _ bucket => !stale (now - bucketTtlSeconds) bucket
    { hits := fresh.filter fun _ keys => !keys.entries.isEmpty, lastSweepAt := now }

/-- `self._hits[scope]` -/
def keysOf (store : MemoryRateLimitStore) (scope : String) : Dict String (List Seconds) :=
  (store.hits.get scope).getD .empty

/-- `self._hits[scope][key]` -/
def bucket (store : MemoryRateLimitStore) (pair : ScopedKey) : List Seconds :=
  ((store.keysOf pair.1).get pair.2).getD []

/-- Make a list of hits the bucket of a key. -/
def setBucket (store : MemoryRateLimitStore) (pair : ScopedKey) (hits : List Seconds) :
    MemoryRateLimitStore :=
  { store with hits := store.hits.set pair.1 ((store.keysOf pair.1).set pair.2 hits) }

/-- The keys `_enforce_scope_cap` deletes: of those over the cap, the ones touched longest ago. -/
def overflow (keys : Dict String (List Seconds)) : List String :=
  let oldest := StableSort.sortBy (fun entry => entry.2.getLast?.getD 0) keys.entries
  (oldest.take (keys.entries.length - maxKeysPerScope)).map Prod.fst

/-- `_enforce_scope_cap` -/
def enforceScopeCap (store : MemoryRateLimitStore) (scope : String) : MemoryRateLimitStore :=
  let keys := store.keysOf scope
  if keys.entries.length ≤ maxKeysPerScope then store
  else { store with hits := store.hits.set scope ((overflow keys).foldl Dict.erase keys) }

/-- `allow`, up to `_enforce_scope_cap`. -/
def hit (store : MemoryRateLimitStore) (pair : ScopedKey) (limit : Limit Seconds)
    (now : Seconds) : MemoryRateLimitStore × Bool :=
  let pruned := store.prune now
  let live := (pruned.bucket pair).dropWhile (· ≤ now - limit.seconds)
  if limit.times ≤ live.length then (pruned.setBucket pair live, false)
  else (pruned.setBucket pair (live ++ [now]), true)

/-- `allow` -/
def allow (store : MemoryRateLimitStore) (pair : ScopedKey) (limit : Limit Seconds)
    (now : Seconds) : MemoryRateLimitStore × Bool :=
  match store.hit pair limit now with
  | (touched, false) => (touched, false)
  | (touched, true) => (touched.enforceScopeCap pair.1, true)

/-- `forget` -/
def forget (store : MemoryRateLimitStore) (pair : ScopedKey) : MemoryRateLimitStore :=
  match store.hits.get pair.1 with
  | none => store
  | some keys => { store with hits := store.hits.set pair.1 (keys.erase pair.2) }

/-- `reset` -/
def reset (_ : MemoryRateLimitStore) : MemoryRateLimitStore := ⟨.empty, 0⟩

/-- The store as a limiter; the hits of its callers need no token. -/
def backend (limits : ScopedKey → Limit Seconds) :
    Backend MemoryRateLimitStore ScopedKey Seconds String where
  step store
    | .allow pair now _ =>
      ((store.allow pair (limits pair) now).1, some (store.allow pair (limits pair) now).2)
    | .forget pair => (store.forget pair, none)
    | .reset => (store.reset, none)

end MemoryRateLimitStore

/-! ## The shared store -/

/-- A sorted set: members with their scores, and when the key expires. -/
structure SortedSet where
  members : Dict String Seconds
  expiresAt : Option Seconds
deriving DecidableEq

/-- A Redis database, as far as it holds sorted sets. -/
abbrev Redis : Type := Dict String SortedSet

namespace Redis

variable (db : Redis) (now : Seconds) (key : String)

/-- The set under a key whose time has not come. -/
def live : Option SortedSet :=
  (db.get key).filter fun set => set.expiresAt.all (now < ·)

/-- `ZREMRANGEBYSCORE key -inf bound` — a set without members is no key. -/
def zremrangebyscore (bound : Seconds) : Redis :=
  match live db now key with
  | none => db.erase key
  | some set =>
    let kept := set.members.filter fun _ score => bound < score
    if kept.entries.isEmpty then db.erase key else db.set key { set with members := kept }

/-- `ZCARD key` -/
def zcard : Nat :=
  match live db now key with
  | none => 0
  | some set => set.members.entries.length

/-- `ZADD key score member` — a new key does not expire. -/
def zadd (score : Seconds) (member : String) : Redis :=
  match live db now key with
  | none => db.set key ⟨Dict.empty.set member score, none⟩
  | some set => db.set key { set with members := set.members.set member score }

/-- `EXPIRE key seconds` — a time that has come deletes the key. -/
def expire (seconds : Int) : Redis :=
  match live db now key with
  | none => db
  | some set =>
    if seconds ≤ 0 then db.erase key else db.set key { set with expiresAt := some (now + seconds) }

end Redis

namespace RedisRateLimitStore

/-- `_REDIS_SLIDING_WINDOW_LUA` -/
def slidingWindow (db : Redis) (key : String) (now window : Seconds) (limit : Nat)
    (member : String) : Redis × Nat :=
  let trimmed := db.zremrangebyscore now key (now - window)
  if limit ≤ trimmed.zcard now key then (trimmed, 0)
  else ((trimmed.zadd now key now member).expire now key (⌈window⌉ + 1), 1)

/-- `bool(allowed)`; a call that raises is allowed. -/
def answer : Option Nat → Bool
  | none => true
  | some allowed => allowed ≠ 0

/-- `_key` -/
def key (pair : ScopedKey) : String := "ratelimit:" ++ pair.1 ++ ":" ++ pair.2

/-- The store as a limiter over a server that answers; the token of a hit is its member. -/
def backend (limits : ScopedKey → Limit Seconds) :
    Backend Redis ScopedKey Seconds String where
  step db
    | .allow pair now member =>
      let reply := slidingWindow db (key pair) now (limits pair).seconds (limits pair).times member
      (reply.1, some (answer (some reply.2)))
    | .forget pair => (db.erase (key pair), none)
    | .reset => (db.filter fun name _ => !"ratelimit:".toList.isPrefixOf name.toList, none)

end RedisRateLimitStore

end MarketingOS
