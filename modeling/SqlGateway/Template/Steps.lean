import SqlGateway.Template.Cache

namespace SqlGateway
namespace Template

/-!
Steps of a store of compiled templates.
-/

inductive CacheStep where
  | get (key : CacheKey)
  | put (key : CacheKey) (query : ParsedQuery)
  | clear
  | resetStats
  | compile (template : String) (dialect : Except Fault Dialect) (style : Option ParameterStyle)

/-- What a step answers: the query that was found or compiled, if it asks for one. -/
inductive CacheReply where
  | nothing
  | found (query : Option ParsedQuery)
  | compiled (query : ParsedQuery)

def Cache.step (cache : Cache) : CacheStep → Except Fault CacheReply × Cache
  | .get key =>
    let (query, cache) := cache.get key
    (.ok (.found query), cache)
  | .put key query => (.ok .nothing, cache.put key query)
  | .clear => (.ok .nothing, cache.clear)
  | .resetStats => (.ok .nothing, cache.resetStats)
  | .compile template dialect style =>
    match dialect with
    | .error fault => (.error fault, cache)
    | .ok dialect =>
      let (outcome, cache) := cache.compile template dialect style
      (outcome.map .compiled, cache)

def Cache.run (cache : Cache) : List CacheStep → List (Except Fault CacheReply × Cache)
  | [] => []
  | step :: rest =>
    let answered := cache.step step
    answered :: answered.2.run rest

/-- Whether a step keeps a query in the store, if it succeeds. -/
def CacheStep.keeps : CacheStep → Bool
  | .put _ _ | .compile _ _ _ => true
  | .get _ | .clear | .resetStats => false

/-- What a step answers where there is no room even for nothing: a step that would keep
a query has dropped it and then fails. -/
def CacheStep.withoutRoom (step : CacheStep) (answered : Except Fault CacheReply × Cache) :
    Except Fault CacheReply × Cache :=
  if step.keeps then (answered.1.bind fun _ => .error (.bare .badKey), answered.2) else answered

/-- Take steps on an empty store.  A capacity below zero leaves no room even for nothing. -/
def Cache.runFrom (capacity : Int) (steps : List CacheStep) :
    List (Except Fault CacheReply × Cache) :=
  let answers := (Cache.ofCapacity capacity.toNat).run steps
  if 0 ≤ capacity then answers else List.zipWith CacheStep.withoutRoom steps answers

end Template
end SqlGateway
