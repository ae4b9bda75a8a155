import SqlGateway.Number.Binary64
import SqlGateway.Template.Query

namespace SqlGateway
namespace Template

/-!
A bounded store of compiled templates.  A look-up and a put both make their key the
most recently used one; when the store is full, the key that was used longest ago
goes.  Counters record how the store was used.
-/

/-- What determines a compiled template: its text, the name of the dialect and the
parameter style. -/
structure CacheKey where
  template : String
  dialect : String
  style : ParameterStyle
deriving DecidableEq, Repr

/-- How often look-ups found something or not, and how many keys were dropped. -/
structure CacheStats where
  hits : Nat
  misses : Nat
  evictions : Nat
deriving DecidableEq, Repr, Inhabited

namespace CacheStats

def fresh : CacheStats := ⟨0, 0, 0⟩

/-- The share of look-ups that found something, in per cent. -/
def hitRate (stats : CacheStats) : Binary64 :=
  let total := stats.hits + stats.misses
  if total = 0 then Binary64.zeroOf false
  else
    match Binary64.ofRatio false stats.hits total with
    | .finite _ significand exponent =>
      let (numerator, denominator) := Binary64.ratio significand exponent
      Binary64.ofRatio false (numerator * 100) denominator
    | rate => rate

def display (stats : CacheStats) : String :=
  "CacheStats(hit_rate=" ++ stats.hitRate.writeTenths ++ "%, hits=" ++ Nat.repr stats.hits ++
    ", misses=" ++ Nat.repr stats.misses ++ ", evictions=" ++ Nat.repr stats.evictions ++ ")"

end CacheStats

/-- A store of compiled templates; the key used longest ago comes first. -/
structure Cache where
  capacity : Nat
  entries : List (CacheKey × ParsedQuery)
  stats : CacheStats
deriving Repr, Inhabited

namespace Cache

/-- The capacity of the store that all compilations share. -/
def sharedCapacity : Nat := 5000

/-- An empty store. -/
def ofCapacity (capacity : Nat) : Cache := ⟨capacity, [], .fresh⟩

def size (cache : Cache) : Nat := cache.entries.length

def without (key : CacheKey) (entries : List (CacheKey × ParsedQuery)) :
    List (CacheKey × ParsedQuery) :=
  entries.filter fun entry => entry.1 ≠ key

def get (cache : Cache) (key : CacheKey) : Option ParsedQuery × Cache :=
  match cache.entries.lookup key with
  | some query =>
    (some query, { cache with
      entries := without key cache.entries ++ [(key, query)]
      stats := { cache.stats with hits := cache.stats.hits + 1 } })
  | none =>
    (none, { cache with stats := { cache.stats with misses := cache.stats.misses + 1 } })

/-- Put a query under a key, and drop what is beyond the capacity. -/
def put (cache : Cache) (key : CacheKey) (query : ParsedQuery) : Cache :=
  let entries := without key cache.entries ++ [(key, query)]
  let excess := entries.length - cache.capacity
  { cache with
    entries := entries.drop excess
    stats := { cache.stats with evictions := cache.stats.evictions + excess } }

def clear (cache : Cache) : Cache := { cache with entries := [], stats := .fresh }

def resetStats (cache : Cache) : Cache := { cache with stats := .fresh }

/-- Compile a template through the store: a query that is kept is used again, and
a new one is kept.  A template with a mistake leaves nothing behind but the miss. -/
def compile (cache : Cache) (template : String) (dialect : Dialect)
    (style : Option ParameterStyle) : Except Fault ParsedQuery × Cache :=
  let style := style.getD dialect.style
  let key : CacheKey := ⟨template, dialect.name, style⟩
  match cache.get key with
  | (some query, cache) => (.ok query, cache)
  | (none, cache) =>
    match parse template dialect style with
    | .ok query => (.ok query, cache.put key query)
    | .error fault => (.error fault, cache)

end Cache

end Template
end SqlGateway
