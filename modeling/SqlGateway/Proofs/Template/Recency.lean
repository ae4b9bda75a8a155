import Mathlib.Data.Finset.Card
import Mathlib.Data.Finset.Option
import Mathlib.Data.List.DropRight
import Mathlib.Data.List.Sort
import SqlGateway.Template.Steps

namespace SqlGateway
namespace Template

/-!
# The store as a record of uses

The store keeps its entries in a list and moves an entry to the end of it when its key is
used.  The reference below has no list.  It notes for each key when it was used last and what
was put under it last, and it holds a set of keys.  A put into a full set drops the held key
whose last use is the earliest.

The invariant says that the list of entries is the set of held keys, in the order of their
last uses and with the queries that were put under them last.  Every step keeps it.  It also
gives the counters: they are read off from the steps of the reference, and so is the count of
entries.

Times tell keys apart because every use has a time of its own.  This is why dropping the
earliest key of a set that is one too large makes it fit.
-/

/-! ## Steps on given keys -/

/-- A step that looks a key up, puts a query under a key, or forgets. -/
inductive StoreStep where
  | get (key : CacheKey)
  | put (key : CacheKey) (query : ParsedQuery)
  | clear
  | resetStats

namespace StoreStep

def step : StoreStep → CacheStep
  | .get key => .get key
  | .put key query => .put key query
  | .clear => .clear
  | .resetStats => .resetStats

/-- The key that something is put under. -/
def keyPut? : StoreStep → Option CacheKey
  | .put key _ => some key
  | _ => none

def isLookup : StoreStep → Bool
  | .get _ => true
  | _ => false

def isClear : StoreStep → Bool
  | .clear => true
  | _ => false

def forgetsCounts : StoreStep → Bool
  | .clear | .resetStats => true
  | _ => false

theorem forgetsCounts_of_isClear (step : StoreStep) (clears : step.isClear) :
    step.forgetsCounts := by
  cases step <;> trivial

theorem not_forgetsCounts (step : StoreStep) (keeps : ¬ step.isClear)
    (noReset : step ≠ .resetStats) : step.forgetsCounts = false := by
  cases step with
  | get key => rfl
  | put key query => rfl
  | clear => exact absurd rfl keeps
  | resetStats => exact absurd rfl noReset

end StoreStep

/-! ## The reference -/

/-- The uses of keys. -/
structure Recency where
  capacity : Nat
  /-- The count of uses. -/
  time : Nat
  held : Finset CacheKey
  /-- The time of the last use of a key, and zero if there was none. -/
  lastUse : CacheKey → Nat
  lastPut : CacheKey → ParsedQuery

namespace Recency

def initial (capacity : Nat) : Recency := ⟨capacity, 0, ∅, fun _ => 0, fun _ => default⟩

def use (recency : Recency) (key : CacheKey) : Recency :=
  { recency with
    time := recency.time + 1
    lastUse := Function.update recency.lastUse key (recency.time + 1) }

/-- Use a key and hold it with a query. -/
def keep (recency : Recency) (key : CacheKey) (query : ParsedQuery) : Recency :=
  { recency.use key with
    held := insert key recency.held
    lastPut := Function.update recency.lastPut key query }

/-- Above the capacity, hold only the keys that are not the first in the order of last
uses. -/
def shrink (recency : Recency) : Recency :=
  if recency.held.card ≤ recency.capacity then recency
  else
    { recency with
      held := recency.held.filter fun key =>
        exists other, other ∈ recency.held ∧ recency.lastUse other < recency.lastUse key }

def step (recency : Recency) : StoreStep → Recency
  | .get key => if key ∈ recency.held then recency.use key else recency
  | .put key query => (recency.keep key query).shrink
  | .clear => { recency with held := ∅ }
  | .resetStats => recency

def after (recency : Recency) (steps : List StoreStep) : Recency := steps.foldl step recency

/-- What a step answers. -/
def reply (recency : Recency) : StoreStep → CacheReply
  | .get key => .found (if key ∈ recency.held then some (recency.lastPut key) else none)
  | _ => .nothing

/-- The keys that a step drops. -/
def dropped (recency : Recency) : StoreStep → Finset CacheKey
  | .put key query =>
    (recency.keep key query).held \ (recency.step (.put key query)).held
  | _ => ∅

/-- Whether a step looks up a key that is held. -/
def finds (recency : Recency) : StoreStep → Bool
  | .get key => key ∈ recency.held
  | _ => false

/-- Whether a step puts something under a key that is not held. -/
def admits (recency : Recency) : StoreStep → Bool
  | .put key _ => key ∉ recency.held
  | _ => false

/-- Steps, each with the uses before it. -/
def moments (recency : Recency) : List StoreStep → List (Recency × StoreStep)
  | [] => []
  | step :: rest => (recency, step) :: (recency.step step).moments rest

@[simp] theorem shrink_capacity (recency : Recency) :
    recency.shrink.capacity = recency.capacity := by
  unfold shrink
  split <;> rfl

@[simp] theorem shrink_time (recency : Recency) : recency.shrink.time = recency.time := by
  unfold shrink
  split <;> rfl

@[simp] theorem shrink_lastUse (recency : Recency) :
    recency.shrink.lastUse = recency.lastUse := by
  unfold shrink
  split <;> rfl

theorem shrink_subset (recency : Recency) : recency.shrink.held ⊆ recency.held := by
  unfold shrink
  split
  · exact Finset.Subset.refl _
  · exact Finset.filter_subset _ _

theorem capacity_step (recency : Recency) (step : StoreStep) :
    (recency.step step).capacity = recency.capacity := by
  cases step with
  | get key =>
      rw [Recency.step]
      split <;> rfl
  | put key query => exact shrink_capacity _
  | clear => rfl
  | resetStats => rfl

theorem held_get (recency : Recency) (key : CacheKey) :
    (recency.step (.get key)).held = recency.held := by
  rw [step]
  split <;> rfl

theorem after_concat (recency : Recency) (steps : List StoreStep) (step : StoreStep) :
    recency.after (steps ++ [step]) = (recency.after steps).step step := by
  unfold after
  rw [List.foldl_concat]

theorem capacity_after (recency : Recency) (steps : List StoreStep) :
    (recency.after steps).capacity = recency.capacity := by
  induction steps generalizing recency with
  | nil => rfl
  | cons first rest inductionHypothesis =>
      exact (inductionHypothesis (recency.step first)).trans (recency.capacity_step first)

theorem moments_concat (recency : Recency) (steps : List StoreStep) (step : StoreStep) :
    recency.moments (steps ++ [step]) =
      recency.moments steps ++ [(recency.after steps, step)] := by
  induction steps generalizing recency with
  | nil => rfl
  | cons first rest inductionHypothesis =>
      exact congrArg ((recency, first) :: ·) (inductionHypothesis (recency.step first))

/-- What is dropped was used before all that is still held. -/
theorem shrink_recent {recency : Recency}
    (recent : forall key other, key ∉ recency.held -> other ∈ recency.held ->
      recency.lastUse key < recency.lastUse other)
    (key other : CacheKey) (missing : key ∉ recency.shrink.held)
    (held : other ∈ recency.shrink.held) : recency.lastUse key < recency.lastUse other := by
  unfold shrink at missing held
  split at missing
  · rename_i fits
    rw [if_pos fits] at held
    exact recent key other missing held
  · rename_i tooMany
    rw [if_neg tooMany] at held
    rcases Finset.mem_filter.mp held with ⟨otherHeld, third, thirdHeld, thirdEarlier⟩
    by_cases keyHeld : key ∈ recency.held
    · apply lt_of_le_of_lt _ thirdEarlier
      apply le_of_not_gt
      intro earlier
      exact missing (Finset.mem_filter.mpr ⟨keyHeld, third, thirdHeld, earlier⟩)
    · exact recent key other keyHeld otherHeld

/-- What a step does to the count of the keys that are held. -/
theorem card_step (recency : Recency) (step : StoreStep) :
    (recency.step step).held.card + (recency.dropped step).card =
      if step.isClear then 0
      else recency.held.card + if recency.admits step then 1 else 0 := by
  cases step with
  | get key =>
      by_cases held : key ∈ recency.held
      · simp [Recency.step, use, dropped, StoreStep.isClear, admits, held]
      · simp [Recency.step, dropped, StoreStep.isClear, admits, held]
  | put key query =>
      have kept : (recency.step (.put key query)).held ⊆ (recency.keep key query).held :=
        shrink_subset _
      have parts := Finset.card_sdiff_add_card_eq_card kept
      rw [Nat.add_comm]
      refine parts.trans ?_
      change (insert key recency.held).card = _
      by_cases held : key ∈ recency.held
      · simp [StoreStep.isClear, admits, held]
      · simp [StoreStep.isClear, admits, held]
  | clear => rfl
  | resetStats => rfl

end Recency

/-! ## Counts over a past -/

section Counts

variable (past : List (Recency × StoreStep))

/-- The moments after the last that forgot the entries. -/
def sinceClear : List (Recency × StoreStep) :=
  past.rtakeWhile fun moment => !moment.2.isClear

/-- The moments after the last that forgot the counts. -/
def sinceForgotten : List (Recency × StoreStep) :=
  past.rtakeWhile fun moment => !moment.2.forgetsCounts

/-- How many keys were looked up. -/
def lookups : Nat := past.countP fun moment => moment.2.isLookup

/-- How many keys were looked up and found. -/
def findings : Nat := past.countP fun moment => moment.1.finds moment.2

/-- How many keys were dropped. -/
def drops : Nat := past.foldl (fun count moment => count + (moment.1.dropped moment.2).card) 0

/-- How often something was put under a key that was not held. -/
def admissions : Nat := past.countP fun moment => moment.1.admits moment.2

/-- The distinct keys that something was put under. -/
def keysPut : Finset CacheKey := (past.filterMap fun moment => moment.2.keyPut?).toFinset

variable (moment : Recency × StoreStep)

theorem sinceClear_concat :
    sinceClear (past ++ [moment]) =
      if moment.2.isClear then [] else sinceClear past ++ [moment] := by
  rw [sinceClear, List.rtakeWhile_concat]
  cases moment.2.isClear <;> rfl

theorem sinceForgotten_concat :
    sinceForgotten (past ++ [moment]) =
      if moment.2.forgetsCounts then [] else sinceForgotten past ++ [moment] := by
  rw [sinceForgotten, List.rtakeWhile_concat]
  cases moment.2.forgetsCounts <;> rfl

theorem lookups_concat :
    lookups (past ++ [moment]) = lookups past + if moment.2.isLookup then 1 else 0 := by
  rw [lookups, List.countP_append, List.countP_singleton]
  rfl

theorem findings_concat :
    findings (past ++ [moment]) =
      findings past + if moment.1.finds moment.2 then 1 else 0 := by
  rw [findings, List.countP_append, List.countP_singleton]
  rfl

theorem admissions_concat :
    admissions (past ++ [moment]) =
      admissions past + if moment.1.admits moment.2 then 1 else 0 := by
  rw [admissions, List.countP_append, List.countP_singleton]
  rfl

theorem drops_concat :
    drops (past ++ [moment]) = drops past + (moment.1.dropped moment.2).card := by
  rw [drops, List.foldl_concat]
  rfl

theorem keysPut_concat :
    keysPut (past ++ [moment]) = keysPut past ∪ moment.2.keyPut?.toFinset := by
  rw [keysPut, List.filterMap_append, List.toFinset_append]
  cases put : moment.2.keyPut? <;> simp [keysPut, put]

theorem keysPut_sinceClear_of_no_put (keeps : moment.2.isClear = false)
    (noPut : moment.2.keyPut? = none) :
    keysPut (sinceClear (past ++ [moment])) = keysPut (sinceClear past) := by
  rw [sinceClear_concat, keeps, if_neg Bool.false_ne_true, keysPut_concat, noPut]
  exact Finset.union_empty _

theorem keysPut_sinceClear_of_put (recency : Recency) (key : CacheKey) (query : ParsedQuery) :
    keysPut (sinceClear (past ++ [(recency, .put key query)])) =
      insert key (keysPut (sinceClear past)) := by
  rw [sinceClear_concat, Finset.insert_eq, Finset.union_comm]
  exact keysPut_concat (sinceClear past) (recency, .put key query)

end Counts

/-! ## The list of entries -/

/-- Entries show the held keys with what was put under them last, in the order of their
last uses. -/
structure Recency.Shown (recency : Recency) (entries : List (CacheKey × ParsedQuery)) :
    Prop where
  ordered : entries.Pairwise fun former latter =>
    recency.lastUse former.1 < recency.lastUse latter.1
  holds : forall key query, (key, query) ∈ entries ↔
    key ∈ recency.held ∧ query = recency.lastPut key

namespace Recency.Shown

variable {recency : Recency} {entries : List (CacheKey × ParsedQuery)}

theorem mem_held_iff (shown : recency.Shown entries) (key : CacheKey) :
    key ∈ recency.held ↔ key ∈ entries.map Prod.fst := by
  constructor
  · intro held
    exact List.mem_map_of_mem ((shown.holds key (recency.lastPut key)).mpr ⟨held, rfl⟩)
  · intro listed
    rcases List.mem_map.mp listed with ⟨⟨_, query⟩, present, rfl⟩
    exact ((shown.holds _ query).mp present).1

theorem length_eq (shown : recency.Shown entries) : entries.length = recency.held.card := by
  have distinct : (entries.map Prod.fst).Nodup := by
    apply List.pairwise_map.mpr
    apply shown.ordered.imp
    intro former latter earlier same
    rw [same] at earlier
    exact lt_irrefl _ earlier
  have sameKeys : (entries.map Prod.fst).toFinset = recency.held := by
    ext key
    rw [List.mem_toFinset, shown.mem_held_iff key]
  rw [← sameKeys, List.toFinset_card_of_nodup distinct, List.length_map]

theorem lookup_eq (shown : recency.Shown entries) (key : CacheKey) :
    entries.lookup key = if key ∈ recency.held then some (recency.lastPut key) else none := by
  cases found : entries.lookup key with
  | none =>
      have missing : key ∉ recency.held := by
        intro held
        have present := (shown.holds key (recency.lastPut key)).mpr ⟨held, rfl⟩
        have differs := List.lookup_eq_none_iff.mp found _ present
        rw [bne_self_eq_false] at differs
        cases differs
      rw [if_neg missing]
  | some query =>
      rcases List.lookup_eq_some_iff.mp found with ⟨before, rest, split, -⟩
      have present : (key, query) ∈ entries := by
        rw [split]
        exact List.mem_append_right before List.mem_cons_self
      have kept := (shown.holds key query).mp present
      rw [if_pos kept.1, kept.2]

/-- There is no second list of entries that shows the held keys in this way. -/
theorem unique {others : List (CacheKey × ParsedQuery)} (shown : recency.Shown entries)
    (othersShown : recency.Shown others) : others = entries := by
  let Earlier (former latter : CacheKey × ParsedQuery) : Prop :=
    recency.lastUse former.1 < recency.lastUse latter.1
  have irreflexive : Std.Irrefl Earlier := ⟨fun entry => lt_irrefl (recency.lastUse entry.1)⟩
  have antisymmetric : Std.Antisymm Earlier :=
    ⟨fun _ _ earlier later => absurd later (lt_asymm earlier)⟩
  apply List.Pairwise.eq_of_mem_iff (r := Earlier) othersShown.ordered shown.ordered
  intro entry
  exact (othersShown.holds entry.1 entry.2).trans (shown.holds entry.1 entry.2).symm

/-- The entry of a key that is used moves to the end. -/
theorem keep (shown : recency.Shown entries)
    (past : forall key, recency.lastUse key ≤ recency.time) (key : CacheKey)
    (query : ParsedQuery) :
    (recency.keep key query).Shown (Cache.without key entries ++ [(key, query)]) := by
  have others {other : CacheKey × ParsedQuery} (kept : other ∈ Cache.without key entries) :
      other.1 ≠ key :=
    of_decide_eq_true (List.mem_filter.mp kept).2
  constructor
  · apply List.pairwise_append.mpr
    refine ⟨?_, List.pairwise_singleton _ _, ?_⟩
    · apply (shown.ordered.sublist List.filter_sublist).imp_of_mem
      intro former latter formerKept latterKept earlier
      simpa only [Recency.keep, use, Function.update_of_ne (others formerKept),
        Function.update_of_ne (others latterKept)] using earlier
    · intro former formerKept latter isLast
      rw [List.mem_singleton.mp isLast]
      simp only [Recency.keep, use, Function.update_of_ne (others formerKept),
        Function.update_self]
      exact Nat.lt_succ_of_le (past former.1)
  · intro other otherQuery
    simp only [List.mem_append, List.mem_singleton, Cache.without, List.mem_filter,
      decide_eq_true_eq, shown.holds, Recency.keep, use, Finset.mem_insert, Prod.mk.injEq]
    by_cases same : other = key
    · subst same
      simp
    · simp [same]

/-- The first entry goes where there is one too many. -/
theorem shrink (shown : recency.Shown entries)
    (nearlyFits : entries.length ≤ recency.capacity + 1) :
    recency.shrink.Shown (entries.drop (entries.length - recency.capacity)) := by
  unfold Recency.shrink
  rw [← shown.length_eq]
  split
  · rename_i fits
    rw [Nat.sub_eq_zero_of_le fits, List.drop_zero]
    exact shown
  · rename_i tooMany
    have excess : entries.length - recency.capacity = 1 := by omega
    rw [excess]
    cases entries with
    | nil => exact absurd (Nat.zero_le _) tooMany
    | cons first rest =>
        rcases List.pairwise_cons.mp shown.ordered with ⟨firstEarliest, restOrdered⟩
        refine ⟨restOrdered, ?_⟩
        intro key query
        simp only [List.drop_succ_cons, List.drop_zero, Finset.mem_filter]
        constructor
        · intro present
          have held := (shown.holds key query).mp (List.mem_cons_of_mem _ present)
          have firstHeld := (shown.holds first.1 first.2).mp List.mem_cons_self
          exact ⟨⟨held.1, first.1, firstHeld.1, firstEarliest _ present⟩, held.2⟩
        · rintro ⟨⟨held, other, otherHeld, otherEarlier⟩, isLastPut⟩
          rcases List.mem_cons.mp ((shown.holds key query).mpr ⟨held, isLastPut⟩) with
            isFirst | present
          · -- No held key was used before the first one.
            exfalso
            have otherPresent := (shown.holds other (recency.lastPut other)).mpr ⟨otherHeld, rfl⟩
            rw [← isFirst] at firstEarliest otherPresent
            rcases List.mem_cons.mp otherPresent with sameEntry | later
            · rw [(Prod.mk.inj sameEntry).1] at otherEarlier
              exact lt_irrefl _ otherEarlier
            · exact lt_asymm otherEarlier (firstEarliest _ later)
          · exact present

end Recency.Shown

/-! ## One step -/

namespace Cache

/-- A store shows what the uses say, and the uses leave nothing out that is more recent. -/
structure Follows (cache : Cache) (recency : Recency) : Prop where
  capacity : cache.capacity = recency.capacity
  shown : recency.Shown cache.entries
  past : forall key, recency.lastUse key ≤ recency.time
  recent : forall key other, key ∉ recency.held -> other ∈ recency.held ->
    recency.lastUse key < recency.lastUse other
  room : recency.held.card ≤ recency.capacity

namespace Follows

variable {cache : Cache} {recency : Recency}

theorem ofCapacity (capacity : Nat) :
    (Cache.ofCapacity capacity).Follows (.initial capacity) where
  capacity := rfl
  shown :=
    { ordered := List.Pairwise.nil
      holds := by
        intro key query
        simp [Recency.initial, Cache.ofCapacity] }
  past _ := Nat.le_refl 0
  recent _ other _ held := absurd held (Finset.notMem_empty other)
  room := Nat.zero_le _

/-- A key that is used is later than all others. -/
theorem recent_keep (follows : cache.Follows recency) (key : CacheKey) (query : ParsedQuery)
    (left right : CacheKey) (missing : left ∉ (recency.keep key query).held)
    (held : right ∈ (recency.keep key query).held) :
    (recency.keep key query).lastUse left < (recency.keep key query).lastUse right := by
  simp only [Recency.keep, Recency.use, Finset.mem_insert, not_or] at missing held ⊢
  rw [Function.update_of_ne missing.1]
  by_cases same : right = key
  · rw [same, Function.update_self]
    exact Nat.lt_succ_of_le (follows.past left)
  · rw [Function.update_of_ne same]
    exact follows.recent left right missing.2 (held.resolve_left same)

theorem past_keep (follows : cache.Follows recency) (key : CacheKey) (query : ParsedQuery)
    (other : CacheKey) :
    (recency.keep key query).lastUse other ≤ (recency.keep key query).time := by
  simp only [Recency.keep, Recency.use, Function.update_apply]
  split
  · exact Nat.le_refl _
  · exact Nat.le_succ_of_le (follows.past other)

/-- A look-up of a held key holds it again with the query that it has. -/
theorem step_get_of_held {key : CacheKey} (held : key ∈ recency.held) :
    recency.step (.get key) = recency.keep key (recency.lastPut key) := by
  simp only [Recency.step, if_pos held, Recency.keep, Finset.insert_eq_of_mem held,
    Function.update_eq_self]
  rfl

/-- One put makes a store too large by one entry at most. -/
theorem length_nearlyFits (follows : cache.Follows recency) (key : CacheKey)
    (query : ParsedQuery) :
    (without key cache.entries ++ [(key, query)]).length ≤ recency.capacity + 1 := by
  rw [(follows.shown.keep follows.past key query).length_eq]
  have grown : (insert key recency.held).card ≤ recency.held.card + 1 :=
    Finset.card_insert_le key recency.held
  have room := follows.room
  change (insert key recency.held).card ≤ _
  omega

theorem put (follows : cache.Follows recency) (key : CacheKey) (query : ParsedQuery) :
    (cache.put key query).Follows (recency.step (.put key query)) := by
  have nearlyFits := follows.length_nearlyFits key query
  have shown : (recency.keep key query).shrink.Shown (cache.put key query).entries := by
    have dropped := (follows.shown.keep follows.past key query).shrink nearlyFits
    rw [show (recency.keep key query).capacity = cache.capacity from follows.capacity.symm]
      at dropped
    exact dropped
  have sameCapacity : cache.capacity = (recency.step (.put key query)).capacity := by
    rw [Recency.step, Recency.shrink_capacity]
    exact follows.capacity
  constructor
  · exact sameCapacity
  · exact shown
  · intro other
    simp only [Recency.step, Recency.shrink_lastUse, Recency.shrink_time]
    exact follows.past_keep key query other
  · intro left right missing held
    simp only [Recency.step, Recency.shrink_lastUse] at missing held ⊢
    exact Recency.shrink_recent (follows.recent_keep key query) left right missing held
  · rw [← sameCapacity, follows.capacity]
    change (recency.keep key query).shrink.held.card ≤ _
    rw [← shown.length_eq, Cache.put, List.length_drop, follows.capacity]
    omega

theorem get_of_held (follows : cache.Follows recency) {key : CacheKey}
    (held : key ∈ recency.held) :
    cache.get key =
      (some (recency.lastPut key), { cache with
        entries := without key cache.entries ++ [(key, recency.lastPut key)]
        stats := { cache.stats with hits := cache.stats.hits + 1 } }) := by
  have found : cache.entries.lookup key = some (recency.lastPut key) := by
    rw [follows.shown.lookup_eq, if_pos held]
  simp only [Cache.get, found]

theorem get_of_not_held (follows : cache.Follows recency) {key : CacheKey}
    (missing : key ∉ recency.held) :
    cache.get key =
      (none, { cache with stats := { cache.stats with misses := cache.stats.misses + 1 } }) := by
  have notFound : cache.entries.lookup key = none := by
    rw [follows.shown.lookup_eq, if_neg missing]
  simp only [Cache.get, notFound]

/-- What a store shows does not depend on its counts. -/
theorem withStats (follows : cache.Follows recency) (stats : CacheStats) :
    Cache.Follows { cache with stats := stats } recency :=
  { follows with }

/-- A step is answered as by the reference, and it keeps the invariant. -/
theorem step (follows : cache.Follows recency) (step : StoreStep) :
    (cache.step step.step).1 = .ok (recency.reply step) ∧
      (cache.step step.step).2.Follows (recency.step step) := by
  cases step with
  | get key =>
      by_cases held : key ∈ recency.held
      · have keptHeld : (recency.keep key (recency.lastPut key)).held = recency.held :=
          Finset.insert_eq_of_mem held
        simp only [StoreStep.step, Cache.step, follows.get_of_held held, Recency.reply,
          if_pos held, step_get_of_held held]
        refine ⟨trivial, ?_⟩
        constructor
        · exact follows.capacity
        · exact follows.shown.keep follows.past key (recency.lastPut key)
        · exact follows.past_keep key (recency.lastPut key)
        · exact follows.recent_keep key (recency.lastPut key)
        · rw [keptHeld]
          exact follows.room
      · simp only [StoreStep.step, Cache.step, follows.get_of_not_held held, Recency.reply,
          Recency.step, if_neg held]
        exact ⟨trivial, follows.withStats _⟩
  | put key query =>
      exact ⟨rfl, follows.put key query⟩
  | clear =>
      refine ⟨rfl, ?_⟩
      constructor
      · exact follows.capacity
      · constructor
        · exact List.Pairwise.nil
        · intro key query
          simp [StoreStep.step, Cache.step, Cache.clear, Recency.step]
      · exact follows.past
      · intro key other _ held
        exact absurd held (Finset.notMem_empty other)
      · exact Nat.zero_le _
  | resetStats =>
      exact ⟨rfl, follows.withStats _⟩

/-- The keys that a put drops are as many as the entries that are too many. -/
theorem card_dropped_put (follows : cache.Follows recency) (key : CacheKey)
    (query : ParsedQuery) :
    (recency.dropped (.put key query)).card =
      (without key cache.entries ++ [(key, query)]).length - cache.capacity := by
  have lengthKept := (follows.shown.keep follows.past key query).length_eq
  have lengthLeft := (follows.put key query).shown.length_eq
  have dropped : (recency.dropped (.put key query)).card =
      (recency.keep key query).held.card - (recency.step (.put key query)).held.card :=
    Finset.card_sdiff_of_subset (Recency.shrink_subset _)
  rw [Cache.put, List.length_drop] at lengthLeft
  omega

theorem card_held_put (follows : cache.Follows recency) (key : CacheKey)
    (query : ParsedQuery) :
    (recency.step (.put key query)).held.card =
      min recency.capacity (insert key recency.held).card := by
  have lengthKept := (follows.shown.keep follows.past key query).length_eq
  have lengthLeft := (follows.put key query).shown.length_eq
  rw [Cache.put, List.length_drop, lengthKept, follows.capacity] at lengthLeft
  rw [← lengthLeft]
  change _ = min recency.capacity (recency.keep key query).held.card
  omega

/-- What a step does to the counters. -/
theorem stats_step (follows : cache.Follows recency) (step : StoreStep) :
    (cache.step step.step).2.stats =
      if step.forgetsCounts then .fresh
      else
        { hits := cache.stats.hits + if recency.finds step then 1 else 0
          misses := cache.stats.misses + if step.isLookup && !recency.finds step then 1 else 0
          evictions := cache.stats.evictions + (recency.dropped step).card } := by
  cases step with
  | get key =>
      by_cases held : key ∈ recency.held
      · simp [StoreStep.step, Cache.step, follows.get_of_held held, StoreStep.forgetsCounts,
          Recency.finds, Recency.dropped, held]
      · simp [StoreStep.step, Cache.step, follows.get_of_not_held held,
          StoreStep.forgetsCounts, StoreStep.isLookup, Recency.finds, Recency.dropped, held]
  | put key query =>
      rw [follows.card_dropped_put key query]
      rfl
  | clear => rfl
  | resetStats => rfl

end Follows

/-! ## Counters -/

/-- The counters of a store are the counts over a past, and so is the count of the keys that
the reference holds after it. -/
structure Counts (cache : Cache) (recency : Recency) (past : List (Recency × StoreStep)) :
    Prop where
  looked : cache.stats.hits + cache.stats.misses = lookups (sinceForgotten past)
  found : cache.stats.hits = findings (sinceForgotten past)
  dropped : cache.stats.evictions = drops (sinceForgotten past)
  balance : (forall moment, moment ∈ sinceClear past -> moment.2 ≠ .resetStats) ->
    cache.size + cache.stats.evictions = admissions (sinceClear past)
  fromPuts : recency.held ⊆ keysPut (sinceClear past)
  filled : recency.held.card = min recency.capacity (keysPut (sinceClear past)).card

namespace Counts

variable {cache : Cache} {recency : Recency} {past : List (Recency × StoreStep)}

theorem initial (capacity : Nat) : (Cache.ofCapacity capacity).Counts (.initial capacity) [] where
  looked := rfl
  found := rfl
  dropped := rfl
  balance _ := rfl
  fromPuts := Finset.empty_subset _
  filled := (Nat.min_zero capacity).symm

/-- A put fills the reference and the set of all keys that were put alike. -/
theorem min_card_insert {held puts : Finset CacheKey} {capacity : Nat} (subset : held ⊆ puts)
    (filled : held.card = min capacity puts.card) (key : CacheKey) :
    min capacity (insert key held).card = min capacity (insert key puts).card := by
  by_cases isHeld : key ∈ held
  · rw [Finset.insert_eq_of_mem isHeld, Finset.insert_eq_of_mem (subset isHeld)]
    omega
  · rw [Finset.card_insert_of_notMem isHeld]
    by_cases wasPut : key ∈ puts
    · -- A key that was put and is not held was dropped, so the reference is full.
      have fewer : held.card < puts.card :=
        Finset.card_lt_card ⟨subset, fun all => isHeld (all wasPut)⟩
      rw [Finset.insert_eq_of_mem wasPut]
      omega
    · rw [Finset.card_insert_of_notMem wasPut]
      omega

theorem step (counts : cache.Counts recency past) (follows : cache.Follows recency)
    (step : StoreStep) :
    (cache.step step.step).2.Counts (recency.step step) (past ++ [(recency, step)]) := by
  have stats := follows.stats_step step
  constructor
  · rw [stats, sinceForgotten_concat]
    split
    · rfl
    · rw [lookups_concat, ← counts.looked]
      cases step <;> simp [StoreStep.isLookup, Recency.finds]
      split <;> omega
  · rw [stats, sinceForgotten_concat]
    split
    · rfl
    · rw [findings_concat, ← counts.found]
  · rw [stats, sinceForgotten_concat]
    split
    · rfl
    · rw [drops_concat, ← counts.dropped]
  · intro noReset
    have card := recency.card_step step
    have size : (cache.step step.step).2.size = (recency.step step).held.card :=
      (follows.step step).2.shown.length_eq
    have sizeBefore : cache.size = recency.held.card := follows.shown.length_eq
    rw [sinceClear_concat] at noReset ⊢
    split at noReset
    · rename_i cleared
      rw [if_pos cleared] at card ⊢
      rw [stats, if_pos (step.forgetsCounts_of_isClear cleared), size]
      change (recency.step step).held.card + 0 = 0
      omega
    · rename_i notCleared
      have counted : step.forgetsCounts = false := by
        apply step.not_forgetsCounts notCleared
        exact noReset (recency, step) List.mem_concat_self
      have before := counts.balance fun moment earlier =>
        noReset moment (List.mem_append_left _ earlier)
      rw [if_neg notCleared] at card ⊢
      rw [stats, counted, size, admissions_concat, ← before, sizeBefore]
      change (recency.step step).held.card +
          (cache.stats.evictions + (recency.dropped step).card) =
        recency.held.card + cache.stats.evictions + if recency.admits step then 1 else 0
      omega
  · cases step with
    | get key =>
        rw [Recency.held_get, keysPut_sinceClear_of_no_put past (recency, .get key) rfl rfl]
        exact counts.fromPuts
    | put key query =>
        rw [keysPut_sinceClear_of_put]
        exact (Recency.shrink_subset _).trans (Finset.insert_subset_insert key counts.fromPuts)
    | clear => exact Finset.empty_subset _
    | resetStats =>
        rw [keysPut_sinceClear_of_no_put past (recency, .resetStats) rfl rfl]
        exact counts.fromPuts
  · cases step with
    | get key =>
        rw [Recency.held_get, Recency.capacity_step,
          keysPut_sinceClear_of_no_put past (recency, .get key) rfl rfl]
        exact counts.filled
    | put key query =>
        rw [follows.card_held_put, Recency.capacity_step, keysPut_sinceClear_of_put]
        exact min_card_insert counts.fromPuts counts.filled key
    | clear =>
        rw [sinceClear_concat]
        exact (Nat.min_zero _).symm
    | resetStats =>
        rw [keysPut_sinceClear_of_no_put past (recency, .resetStats) rfl rfl]
        exact counts.filled

end Counts

/-! ## Runs -/

def after (cache : Cache) (steps : List StoreStep) : Cache :=
  steps.foldl (fun cache step => (cache.step step.step).2) cache

theorem after_concat (cache : Cache) (steps : List StoreStep) (step : StoreStep) :
    cache.after (steps ++ [step]) = ((cache.after steps).step step.step).2 := by
  unfold after
  rw [List.foldl_concat]

theorem getElem?_run (cache : Cache) (earlier : List StoreStep) (step : StoreStep)
    (later : List StoreStep) :
    (cache.run ((earlier ++ step :: later).map StoreStep.step))[earlier.length]? =
      some ((cache.after earlier).step step.step) := by
  induction earlier generalizing cache with
  | nil => rfl
  | cons first rest inductionHypothesis =>
      exact inductionHypothesis (cache.step first.step).2

/-- A store that starts empty follows the reference through all steps. -/
theorem follows_after (capacity : Nat) (steps : List StoreStep) :
    ((Cache.ofCapacity capacity).after steps).Follows ((Recency.initial capacity).after steps) ∧
      ((Cache.ofCapacity capacity).after steps).Counts ((Recency.initial capacity).after steps)
        ((Recency.initial capacity).moments steps) := by
  induction steps using List.reverseRecOn with
  | nil => exact ⟨.ofCapacity capacity, .initial capacity⟩
  | append_singleton earlier last inductionHypothesis =>
      rcases inductionHypothesis with ⟨follows, counts⟩
      rw [after_concat, Recency.after_concat, Recency.moments_concat]
      exact ⟨(follows.step last).2, counts.step follows last⟩

end Cache

/-- Every step of a run is answered, a look-up with a query exactly if the reference holds
the key, namely with what was put under it last.  After the step the store shows what the
reference holds, in the order of uses.  What the reference holds are the latest of all keys
that were put since the store was last cleared, as many as fit.  The counters count the
look-ups, those that found something and the keys that were dropped since the counts were
last forgotten.  If they were not forgotten since the store was last cleared, then the kept
entries and the dropped ones are as many as the puts under keys that were not held. -/
theorem runFrom_refines_recency (capacity : Nat) (earlier : List StoreStep) (step : StoreStep)
    (later : List StoreStep) :
    let before := (Recency.initial capacity).after earlier
    let reference := before.step step
    let past := (Recency.initial capacity).moments (earlier ++ [step])
    exists cache,
      (Cache.runFrom capacity ((earlier ++ step :: later).map StoreStep.step))[earlier.length]? =
        some (.ok (before.reply step), cache) ∧
      (forall entries, reference.Shown entries ↔ entries = cache.entries) ∧
      (forall key other, key ∉ reference.held -> other ∈ reference.held ->
        reference.lastUse key < reference.lastUse other) ∧
      reference.held ⊆ keysPut (sinceClear past) ∧
      reference.held.card = min capacity (keysPut (sinceClear past)).card ∧
      cache.stats.hits + cache.stats.misses = lookups (sinceForgotten past) ∧
      cache.stats.hits = findings (sinceForgotten past) ∧
      cache.stats.evictions = drops (sinceForgotten past) ∧
      ((forall moment, moment ∈ sinceClear past -> moment.2 ≠ .resetStats) ->
        cache.size + cache.stats.evictions = admissions (sinceClear past)) := by
  intro before reference past
  rcases Cache.follows_after capacity earlier with ⟨followsBefore, countsBefore⟩
  rcases followsBefore.step step with ⟨answered, follows⟩
  have counts := countsBefore.step followsBefore step
  rw [← Recency.moments_concat] at counts
  have sameCapacity : reference.capacity = capacity :=
    (before.capacity_step step).trans (Recency.capacity_after _ earlier)
  refine ⟨_, ?_, ?_, follows.recent, counts.fromPuts, ?_, counts.looked, counts.found,
    counts.dropped, counts.balance⟩
  · rw [Cache.runFrom, if_pos (Int.natCast_nonneg capacity), Int.toNat_natCast,
      Cache.getElem?_run]
    exact congrArg some (Prod.ext answered rfl)
  · intro entries
    constructor
    · exact follows.shown.unique
    · intro same
      rw [same]
      exact follows.shown
  · rw [← sameCapacity]
    exact counts.filled

end Template
end SqlGateway
