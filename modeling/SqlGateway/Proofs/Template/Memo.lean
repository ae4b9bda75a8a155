import SqlGateway.Connection.Source
import SqlGateway.Template.Steps

namespace SqlGateway

/-!
# What a kept query stands for

The compiler keeps the queries that it makes and gives them out again when their key comes
back.  A key names the dialect, but a request may also bring a dialect of its own making, and
two dialects of one name need not quote alike.  So a kept query stands for every dialect of
its name, and it is the right answer for those that quote as the first one did.

The invariant of a run is that every entry of the store was made for an earlier request with
the same key.  Hits, misses, failures and evictions all keep it, and the main statement reads
off from it when an answer is the one that a compilation without a store gives.
-/

/-! ## What a compilation reads of a dialect -/

/-- Two dialects write every identifier alike, and complain alike about one that they
cannot write. -/
structure Dialect.QuotesLike (first second : Dialect) : Prop where
  name : first.name = second.name
  quoteBegin : first.quoteBegin = second.quoteBegin
  quoteEnd : first.quoteEnd = second.quoteEnd
  quoteEscape : first.quoteEscape = second.quoteEscape

namespace Dialect

theorem QuotesLike.refl (dialect : Dialect) : dialect.QuotesLike dialect :=
  ⟨rfl, rfl, rfl, rfl⟩

/-- No two supported dialects have one name. -/
theorem eq_of_name_eq {first second : Dialect} (firstBuiltin : first ∈ builtin)
    (secondBuiltin : second ∈ builtin) (sameName : first.name = second.name) :
    first = second := by
  have distinct : forall first, first ∈ builtin -> forall second, second ∈ builtin ->
      first.name = second.name -> first = second := by
    decide
  exact distinct first firstBuiltin second secondBuiltin sameName

/-- A dialect that is given by name is a supported one. -/
theorem mem_builtin_of_named {value : Value} {dialect : Dialect}
    (named : (DialectSource.named value).dialect = .ok dialect) : dialect ∈ builtin := by
  have refused (shown : Except Fault String) :
      (do throw (Dialect.unsupported (← shown)) : Except Fault Dialect) ≠ .ok dialect := by
    cases shown <;> nofun
  cases value with
  | text name =>
      change Dialect.get name = .ok dialect at named
      unfold Dialect.get at named
      split at named
      · rename_i found
        cases named
        exact List.mem_of_find?_eq_some found
      · cases named
  | _ =>
      simp only [DialectSource.dialect, ConnectionParams.dialectOf] at named
      split at named
      · exact absurd named (refused _)
      · cases named

end Dialect

namespace Template

section Dialects

variable {first second : Dialect}

theorem quoteChars?_congr (alike : first.QuotesLike second) (identifier : List Char) :
    first.quoteChars? identifier = second.quoteChars? identifier := by
  simp only [Dialect.quoteChars?, alike.quoteBegin, alike.quoteEnd, alike.quoteEscape]

theorem mistake?_congr (alike : first.QuotesLike second) (depth : Nat) (token : Token) :
    token.mistake? first depth = token.mistake? second depth := by
  simp only [Token.mistake?, quoteChars?_congr alike, alike.quoteBegin]

theorem fault_congr (alike : first.QuotesLike second) (template : List Char) (offset : Nat)
    (mistake : Mistake) : mistake.fault first template offset = mistake.fault second template offset := by
  cases mistake with
  | unquotable name =>
      simp only [Mistake.fault, Dialect.unquotable, alike.quoteEnd, alike.name]
  | _ => rfl

theorem firstMistake?_congr (alike : first.QuotesLike second) (place : Place)
    (tokens : List Token) : firstMistake? first place tokens = firstMistake? second place tokens := by
  induction tokens generalizing place with
  | nil => rfl
  | cons token rest inductionHypothesis =>
      simp only [firstMistake?, mistake?_congr alike, inductionHypothesis]

theorem pieces_congr (alike : first.QuotesLike second) (tokens : List Token) :
    pieces first tokens = pieces second tokens := by
  have sameImage : Token.image first = Token.image second := by
    funext token
    simp only [Token.image, quoteChars?_congr alike]
  simp only [pieces, sameImage]

/-- Dialects that quote alike have the same queries. -/
theorem parse_congr (alike : first.QuotesLike second) (template : String)
    (style : ParameterStyle) : parse template first style = parse template second style := by
  simp only [parse, firstMistake?_congr alike, pieces_congr alike, fault_congr alike]

end Dialects

/-! ## Requests -/

/-- A call of the compiler. -/
structure CompileRequest where
  template : String
  source : DialectSource
  /-- The style that is wanted in place of the one of the dialect. -/
  style : Option ParameterStyle

namespace CompileRequest

def step (request : CompileRequest) : CacheStep :=
  .compile request.template request.source.dialect request.style

/-- The key of a request, if there is a dialect. -/
def key? (request : CompileRequest) : Option CacheKey :=
  request.source.dialect.toOption.map fun dialect =>
    ⟨request.template, dialect.name, request.style.getD dialect.style⟩

/-- The answer to a request without a store. -/
def uncached (request : CompileRequest) : Except Fault ParsedQuery := do
  let dialect ← request.source.dialect
  parse request.template dialect (request.style.getD dialect.style)

/-- Whether the dialects of two requests, if there are any, quote alike. -/
def QuotesLike (earlier later : CompileRequest) : Prop :=
  forall first second, earlier.source.dialect = .ok first -> later.source.dialect = .ok second ->
    first.QuotesLike second

/-- Requests with one key have one answer if their dialects quote alike. -/
theorem uncached_congr {earlier later : CompileRequest} (sameKey : earlier.key? = later.key?)
    (alike : earlier.QuotesLike later) (compiled : earlier.uncached.isOk) :
    earlier.uncached = later.uncached := by
  unfold key? at sameKey
  unfold uncached at compiled ⊢
  cases firstGiven : earlier.source.dialect with
  | error fault =>
      rw [firstGiven] at compiled
      cases compiled
  | ok first =>
      cases secondGiven : later.source.dialect with
      | error fault =>
          rw [firstGiven, secondGiven] at sameKey
          cases sameKey
      | ok second =>
          rw [firstGiven, secondGiven] at sameKey
          simp only [Except.toOption, Option.map_some, Option.some.injEq, CacheKey.mk.injEq]
            at sameKey
          rcases sameKey with ⟨sameTemplate, -, sameStyle⟩
          change parse _ first _ = parse _ second _
          rw [sameTemplate, sameStyle]
          exact parse_congr (alike first second firstGiven secondGiven) _ _

/-- Requests that give their dialects by name quote alike if they have one key. -/
theorem quotesLike_of_named {earlier later : CompileRequest} (sameKey : earlier.key? = later.key?)
    (earlierNamed : exists name, earlier.source = .named name)
    (laterNamed : exists name, later.source = .named name) : earlier.QuotesLike later := by
  intro first second firstGiven secondGiven
  rcases earlierNamed with ⟨firstName, firstSource⟩
  rcases laterNamed with ⟨secondName, secondSource⟩
  have sameName : first.name = second.name := by
    unfold key? at sameKey
    rw [firstGiven, secondGiven] at sameKey
    simp only [Except.toOption, Option.map_some, Option.some.injEq, CacheKey.mk.injEq] at sameKey
    exact sameKey.2.1
  rw [firstSource] at firstGiven
  rw [secondSource] at secondGiven
  have same := Dialect.eq_of_name_eq (Dialect.mem_builtin_of_named firstGiven)
    (Dialect.mem_builtin_of_named secondGiven) sameName
  rw [same]
  exact .refl second

end CompileRequest

/-! ## One compilation -/

namespace Cache

theorem mem_of_lookup {key : CacheKey} {query : ParsedQuery}
    {entries : List (CacheKey × ParsedQuery)} (found : entries.lookup key = some query) :
    (key, query) ∈ entries := by
  induction entries with
  | nil => cases found
  | cons entry rest inductionHypothesis =>
      rw [List.lookup_cons] at found
      split at found
      · rename_i same
        cases found
        exact List.mem_cons.mpr (Or.inl (by rw [beq_iff_eq.mp same]))
      · exact List.mem_cons_of_mem _ (inductionHypothesis found)

theorem mem_of_mem_without {key : CacheKey} {entry : CacheKey × ParsedQuery}
    {entries : List (CacheKey × ParsedQuery)} (kept : entry ∈ without key entries) :
    entry ∈ entries :=
  (List.mem_filter.mp kept).1

theorem mem_put {cache : Cache} {key : CacheKey} {query : ParsedQuery}
    {entry : CacheKey × ParsedQuery} (kept : entry ∈ (cache.put key query).entries) :
    entry ∈ cache.entries ∨ entry = (key, query) := by
  have present := List.mem_of_mem_drop kept
  rcases List.mem_append.mp present with old | new
  · exact Or.inl (mem_of_mem_without old)
  · exact Or.inr (List.mem_singleton.mp new)

/-- A compilation answers with a kept query or as it would without a store, and keeps
nothing but what it made itself under its own key. -/
theorem compile_cases (cache : Cache) (template : String) (dialect : Dialect)
    (style : Option ParameterStyle) :
    let made := parse template dialect (style.getD dialect.style)
    let key : CacheKey := ⟨template, dialect.name, style.getD dialect.style⟩
    let answered := cache.compile template dialect style
    (answered.1 = made ∨
      exists query, (key, query) ∈ cache.entries ∧ answered.1 = .ok query) ∧
    forall entry, entry ∈ answered.2.entries ->
      entry ∈ cache.entries ∨ (entry.1 = key ∧ made = .ok entry.2) := by
  intro made key answered
  cases found : cache.entries.lookup key with
  | some query =>
      have kept : (key, query) ∈ cache.entries := mem_of_lookup found
      have used : answered = (.ok query, (cache.get key).2) := by
        simp only [answered, compile, get, key, found]
      rw [used]
      refine ⟨Or.inr ⟨query, kept, rfl⟩, fun entry present => Or.inl ?_⟩
      simp only [get, found] at present
      rcases List.mem_append.mp present with old | new
      · exact mem_of_mem_without old
      · rw [List.mem_singleton.mp new]
        exact kept
  | none =>
      cases outcome : made with
      | error fault =>
          have failed : answered = (.error fault, (cache.get key).2) := by
            simp only [answered, compile, get, key, found, made] at outcome ⊢
            simp only [outcome]
          rw [failed]
          refine ⟨Or.inl rfl, fun entry present => Or.inl ?_⟩
          simpa only [get, found] using present
      | ok query =>
          have added : answered = (.ok query, (cache.get key).2.put key query) := by
            simp only [answered, compile, get, key, found, made] at outcome ⊢
            simp only [outcome]
          rw [added]
          refine ⟨Or.inl rfl, fun entry present => ?_⟩
          rcases mem_put present with old | new
          · exact Or.inl (by simpa only [get, found] using old)
          · rw [new]
            exact Or.inr ⟨rfl, rfl⟩

theorem compile_ofCapacity (capacity : Nat) (template : String) (dialect : Dialect)
    (style : Option ParameterStyle) :
    ((ofCapacity capacity).compile template dialect style).1 =
      parse template dialect (style.getD dialect.style) := by
  obtain ⟨made | ⟨query, kept, -⟩, -⟩ :=
    compile_cases (ofCapacity capacity) template dialect style
  · exact made
  · cases kept

/-! ## Supported dialects only -/

/-- Every query that is kept under the name of a supported dialect is what the compiler makes
for that dialect. -/
def Sound (cache : Cache) : Prop :=
  forall entry, entry ∈ cache.entries ->
    forall dialect, dialect ∈ Dialect.builtin -> entry.1.dialect = dialect.name ->
      parse entry.1.template dialect entry.1.style = .ok entry.2

theorem sound_ofCapacity (capacity : Nat) : (ofCapacity capacity).Sound := by
  intro entry kept
  cases kept

section Supported

variable {cache : Cache} (sound : cache.Sound) {dialect : Dialect}
  (supported : dialect ∈ Dialect.builtin) (template : String) (style : Option ParameterStyle)
include sound supported

/-- For a supported dialect, a sound store gives what the compiler makes. -/
theorem compile_of_sound :
    (cache.compile template dialect style).1 =
      parse template dialect (style.getD dialect.style) := by
  rcases compile_cases cache template dialect style with ⟨made | ⟨query, kept, found⟩, -⟩
  · exact made
  · exact found.trans (sound _ kept dialect supported rfl).symm

/-- Compiling for supported dialects keeps a store sound. -/
theorem sound_compile : (cache.compile template dialect style).2.Sound := by
  rcases compile_cases cache template dialect style with ⟨-, keeps⟩
  intro entry kept other otherSupported sameName
  rcases keeps entry kept with old | ⟨ownKey, made⟩
  · exact sound entry old other otherSupported sameName
  · rw [ownKey] at sameName ⊢
    rw [← Dialect.eq_of_name_eq supported otherSupported sameName]
    exact made

end Supported

end Cache

/-! ## Runs -/

/-- Every entry was made for one of the requests. -/
def Cache.Remembers (cache : Cache) (requests : List CompileRequest) : Prop :=
  forall entry, entry ∈ cache.entries ->
    exists request, request ∈ requests ∧ request.key? = some entry.1 ∧
      request.uncached = .ok entry.2

namespace Cache

theorem remembers_empty (capacity : Nat) : (ofCapacity capacity).Remembers [] := by
  intro entry kept
  cases kept

theorem Remembers.append {cache : Cache} {requests : List CompileRequest}
    (remembers : cache.Remembers requests) (more : List CompileRequest) :
    cache.Remembers (requests ++ more) := by
  intro entry kept
  rcases remembers entry kept with ⟨request, asked, same, made⟩
  exact ⟨request, List.mem_append_left more asked, same, made⟩

/-- What a store answers, it compiled now or before, perhaps for a dialect of the same name. -/
theorem Remembers.exists_parse {cache : Cache} {requests : List CompileRequest}
    (remembers : cache.Remembers requests) {template : String} {dialect : Dialect}
    {style : Option ParameterStyle} {query : ParsedQuery}
    (compiled : (cache.compile template dialect style).1 = .ok query) :
    exists other used, parse template other used = .ok query := by
  rcases (compile_cases cache template dialect style).1 with made | ⟨kept, present, answered⟩
  · exact ⟨_, _, made.symm.trans compiled⟩
  · rcases remembers _ present with ⟨request, -, sameKey, worth⟩
    rw [answered] at compiled
    cases compiled
    unfold CompileRequest.key? at sameKey
    unfold CompileRequest.uncached at worth
    cases given : request.source.dialect with
    | error fault =>
        rw [given] at sameKey
        cases sameKey
    | ok other =>
        rw [given] at sameKey worth
        have sameTemplate : request.template = template :=
          congrArg CacheKey.template (Option.some.inj sameKey)
        exact ⟨other, _, sameTemplate ▸ worth⟩

/-- What a request may be answered after others: what it is worth by itself, or what an
earlier request with its key got. -/
def MayAnswer (earlier : List CompileRequest) (request : CompileRequest)
    (answer : Except Fault ParsedQuery) : Prop :=
  answer = request.uncached ∨
    exists former, former ∈ earlier ∧ former.key? = request.key? ∧
      answer.isOk ∧ answer = former.uncached

/-- A request is answered by what the store remembers, and is remembered itself. -/
theorem step_remembers {cache : Cache} {earlier : List CompileRequest}
    (remembers : cache.Remembers earlier) (request : CompileRequest) :
    (exists answer, (cache.step request.step).1 = answer.map .compiled ∧
      MayAnswer earlier request answer) ∧
    (cache.step request.step).2.Remembers (earlier ++ [request]) := by
  cases given : request.source.dialect with
  | error fault =>
      have refused : cache.step request.step = (.error fault, cache) := by
        simp only [step, CompileRequest.step, given]
      have worth : request.uncached = .error fault := by
        simp only [CompileRequest.uncached, given]
        rfl
      rw [refused]
      exact ⟨⟨.error fault, rfl, Or.inl worth.symm⟩, remembers.append _⟩
  | ok dialect =>
      let answered := cache.compile request.template dialect request.style
      have compiled : cache.step request.step = (answered.1.map .compiled, answered.2) := by
        simp only [step, CompileRequest.step, given, answered]
      have worth : request.uncached =
          parse request.template dialect (request.style.getD dialect.style) := by
        simp only [CompileRequest.uncached, given]
        rfl
      have sameKey : request.key? =
          some ⟨request.template, dialect.name, request.style.getD dialect.style⟩ := by
        simp only [CompileRequest.key?, given]
        rfl
      obtain ⟨answers, keeps⟩ :=
        compile_cases cache request.template dialect request.style
      rw [compiled]
      constructor
      · refine ⟨answered.1, rfl, ?_⟩
        rcases answers with made | ⟨query, kept, found⟩
        · exact Or.inl (made.trans worth.symm)
        · rcases remembers _ kept with ⟨former, asked, formerKey, formerMade⟩
          refine Or.inr ⟨former, asked, formerKey.trans sameKey.symm, ?_, ?_⟩
          · exact congrArg Except.isOk found
          · exact found.trans formerMade.symm
      · intro entry present
        rcases keeps entry present with old | ⟨ownKey, made⟩
        · exact remembers.append [request] entry old
        · refine ⟨request, List.mem_append_right _ (List.mem_singleton.mpr rfl), ?_, ?_⟩
          · rw [sameKey, ownKey]
          · exact worth.trans made

theorem length_run (cache : Cache) (steps : List CacheStep) :
    (cache.run steps).length = steps.length := by
  induction steps generalizing cache with
  | nil => rfl
  | cons step rest inductionHypothesis =>
      exact congrArg (· + 1) (inductionHypothesis (cache.step step).2)

/-- In a run on a store that remembers earlier requests, each request is answered by what
came before it. -/
theorem run_answers {cache : Cache} {earlier : List CompileRequest}
    (remembers : cache.Remembers earlier) (requests : List CompileRequest) (place : Nat)
    (request : CompileRequest) (asked : requests[place]? = some request) :
    exists answer left,
      (cache.run (requests.map CompileRequest.step))[place]? =
        some (answer.map .compiled, left) ∧
      MayAnswer (earlier ++ requests.take place) request answer := by
  induction requests generalizing cache earlier place with
  | nil => cases asked
  | cons first rest inductionHypothesis =>
      rcases step_remembers remembers first with ⟨⟨answer, answered, worth⟩, remembersFirst⟩
      cases place with
      | zero =>
          cases asked
          refine ⟨answer, (cache.step request.step).2, ?_, ?_⟩
          · rw [← answered]
            rfl
          · simpa using worth
      | succ place =>
          obtain ⟨laterAnswer, left, laterAnswered, laterWorth⟩ :=
            inductionHypothesis remembersFirst place asked
          refine ⟨laterAnswer, left, laterAnswered, ?_⟩
          simpa using laterWorth

/-- If the dialects of all earlier requests with its key quote as the dialect of a request
does, then the request is answered as without a store. -/
theorem MayAnswer.eq_uncached {earlier : List CompileRequest} {request : CompileRequest}
    {answer : Except Fault ParsedQuery} (worth : MayAnswer earlier request answer)
    (alike : forall former, former ∈ earlier -> former.key? = request.key? ->
      former.QuotesLike request) : answer = request.uncached := by
  rcases worth with same | ⟨former, asked, sameKey, compiled, same⟩
  · exact same
  · rw [same] at compiled ⊢
    exact CompileRequest.uncached_congr sameKey (alike former asked sameKey) compiled

end Cache

/-- A store of any capacity that starts empty answers each request of a run with what the
request is worth without a store, unless an earlier request with the same key brought a
dialect that quotes differently; the answer is then at worst the query of such a request. -/
theorem compile_memoized (capacity : Nat) (requests : List CompileRequest) (place : Nat)
    (request : CompileRequest) (asked : requests[place]? = some request) :
    exists answer left,
      ((Cache.ofCapacity capacity).run (requests.map CompileRequest.step))[place]? =
        some (answer.map .compiled, left) ∧
      ((forall former, former ∈ requests.take place -> former.key? = request.key? ->
        former.QuotesLike request) -> answer = request.uncached) ∧
      (answer = request.uncached ∨
        exists former, former ∈ requests.take place ∧ former.key? = request.key? ∧
          answer.isOk ∧ answer = former.uncached) := by
  obtain ⟨answer, left, answered, worth⟩ :=
    Cache.run_answers (Cache.remembers_empty capacity) requests place request asked
  exact ⟨answer, left, answered, worth.eq_uncached, worth⟩

/-- The second of two equal requests gets the query that was kept for the first. -/
theorem compile_memoized_of_repeated :
    let request : CompileRequest := ⟨"SELECT [a]", .named (.text "sqlite"), none⟩
    exists left, ((Cache.ofCapacity 1).run ([request, request].map CompileRequest.step))[1]? =
      some (.ok (.compiled ⟨"SELECT \x22a\x22", [], []⟩), left) := by
  intro request
  obtain ⟨answer, left, answered, same, -⟩ :=
    compile_memoized 1 [request, request] 1 request rfl
  have alike : forall former, former ∈ [request, request].take 1 ->
      former.key? = request.key? -> former.QuotesLike request := by
    intro former earlier sameKey
    rw [List.mem_singleton.mp earlier] at sameKey ⊢
    exact CompileRequest.quotesLike_of_named sameKey ⟨_, rfl⟩ ⟨_, rfl⟩
  have worth : CompileRequest.uncached ⟨"SELECT [a]", .named (.text "sqlite"), none⟩ =
      .ok ⟨"SELECT \x22a\x22", [], []⟩ :=
    rfl
  rw [(same alike).trans worth] at answered
  exact ⟨left, answered⟩

/-- A dialect with the name of a supported one gets the query of the supported one, although
it quotes with brackets. -/
theorem compile_of_namesake :
    let bracketed : Dialect :=
      { Dialect.doubleQuoted "sqlite" "sqlite" .question "sqlite" "sqlite" false with
        quoteBegin := "[", quoteEnd := "]", quoteEscape := some "]" }
    let first : CompileRequest := ⟨"SELECT [a]", .named (.text "sqlite"), none⟩
    let second : CompileRequest := ⟨"SELECT [a]", .given bracketed, none⟩
    second.uncached = .ok ⟨"SELECT [a]", [], []⟩ ∧
    exists left, ((Cache.ofCapacity 10).run ([first, second].map CompileRequest.step))[1]? =
      some (.ok (.compiled ⟨"SELECT \x22a\x22", [], []⟩), left) := by
  exact ⟨rfl, _, rfl⟩

/-- Where all dialects are given by name, a store is never noticed. -/
theorem run_eq_uncached_of_named (capacity : Nat) (requests : List CompileRequest)
    (named : forall request, request ∈ requests -> exists name, request.source = .named name) :
    ((Cache.ofCapacity capacity).run (requests.map CompileRequest.step)).map Prod.fst =
      requests.map fun request => request.uncached.map .compiled := by
  apply List.ext_getElem?
  intro place
  rw [List.getElem?_map, List.getElem?_map]
  cases asked : requests[place]? with
  | none =>
      have beyond : requests.length ≤ place := List.getElem?_eq_none_iff.mp asked
      rw [List.getElem?_eq_none]
      · rfl
      · rw [Cache.length_run, List.length_map]
        exact beyond
  | some request =>
      obtain ⟨answer, left, answered, worth⟩ :=
        Cache.run_answers (Cache.remembers_empty capacity) requests place request asked
      have same : answer = request.uncached := by
        apply worth.eq_uncached
        intro former earlier sameKey
        exact CompileRequest.quotesLike_of_named sameKey
          (named former (List.mem_of_mem_take earlier)) (named request (List.mem_of_getElem? asked))
      rw [answered, same]
      rfl

end Template
end SqlGateway
