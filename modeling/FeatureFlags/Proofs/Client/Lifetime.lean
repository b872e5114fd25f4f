import FeatureFlags.Proofs.Client.Remote
import FeatureFlags.Proofs.Service.Escape

/-!
# `Proofs.Client.Lifetime` — a client and the service it has built, from first to last

A client that builds its own service closes it when the client is shut down, and goes on answering
queries from its snapshot.  `Life` is such a client with its service: threads take steps in the poller,
the service answers those that list the flags, and calls for flags ask it for decisions.

`remote_calls_return_iff` says what becomes of a call that needs the service, at any moment of that life:
it returns if, and only if, its request does not escape, and then it returns the default wherever the
service failed.  A request to a closed service escapes, so no such call returns once the client has been
shut down.

## Contents

1. When a poller's service is closed
2. Lives
3. Which calls return
4. A client that is shut down
-/

namespace FeatureFlags

namespace Poller

/-! ## When a poller's service is closed -/

/-- The frame that closes the service. -/
def Frame.closes : Frame → Bool
  | .closeService => true
  | _ => false

/-- Whether the service is closed with an action. -/
def State.closesService (s : State) : Action → Bool
  | .runs who => (s.pending who).head?.any Frame.closes
  | _ => false

section

variable {s : State} {who : Who} {f : Frame} {a : Action} {m : Move}

theorem Turn.serviceClosed (h : Turn s who f a m) :
    m.state.serviceClosed = (s.serviceClosed || f.closes) := by
  cases h with
  | runs h _ =>
      cases f <;> simp only [Frame.move?, State.enter, State.setWake] at h <;> (try split at h) <;>
        (try split at h) <;> cases h <;> simp [Frame.closes, State.setPending]
  | answers _ h | sinks _ _ h =>
      subst h
      simp [Frame.closes]
  | timesOut h =>
      cases f with
      | loopParked => simp [← Option.some.inj h, Frame.closes]
      | readWait timed | stopJoin timed _ =>
          cases timed with
          | true => simp [← Option.some.inj h, Frame.closes]
          | false => cases h
      | _ => cases h

/-- **A service stays open until it is closed**, and is closed from then on. -/
theorem State.step?_serviceClosed (h : s.step? a = some m) :
    m.state.serviceClosed = (s.serviceClosed || s.closesService a) := by
  rcases step?_cases h with ⟨n, op, rfl, hp, rfl⟩ | ⟨who, rest, rfl, hp, _, rfl⟩ |
    ⟨who, f, rest, μ, hp, ht, rfl⟩
  · simp [closesService, setPending]
  · simp [closesService, hp, Frame.closes, setPending, launched]
  · have hf : s.closesService a = f.closes := by
      cases ht with
      | runs _ _ => simp [closesService, hp]
      | answers _ hf | sinks _ _ hf => simp [closesService, hf, Frame.closes]
      | timesOut h => cases f <;> first | rfl | cases h
    exact ht.serviceClosed.trans (by rw [hf])

end

end Poller

namespace Client

/-! ## Lives -/

/-- A client's poller, and the service that the client has built. -/
structure Life where
  poller : Poller.State
  store : Http

namespace Life

/-- What happens to a client and its service. -/
inductive Event where
  /-- The service answers a thread that lists the flags. -/
  | lists (who : Poller.Who)
  /-- A call for a flag asks the service. -/
  | decides (subject : String) (groups : Groups)
  /-- Anything else. -/
  | acts (a : Poller.Action)

/-- A new client. -/
def new (c : Config) (store : Http) : Life := ⟨.new c.pollInterval, store⟩

/-- The next step, none if the event cannot happen now. -/
def step? (l : Life) : Event → Option Life
  | .lists who =>
    (l.poller.step? (.answers who l.store.fetch.1)).map fun m => ⟨m.state, l.store.fetch.2⟩
  | .decides subject groups => some { l with store := (l.store.decide subject groups).2 }
  | .acts a =>
    if a.isAnswer then none
    else
      (l.poller.step? a).map fun m =>
        ⟨m.state, if l.poller.closesService a then l.store.close else l.store⟩

/-- The client after a sequence of events. -/
def run? (l : Life) (events : List Event) : Option Life := events.foldlM step? l

theorem run?_append {l k : Life} {events more : List Event} (h : l.run? events = some k) :
    l.run? (events ++ more) = k.run? more := by
  rw [run?, List.foldlM_append, show events.foldlM step? l = some k from h]
  rfl

theorem run?_cons {l : Life} {e : Event} {events : List Event} :
    l.run? (e :: events) = (l.step? e).bind fun k => k.run? events := rfl

/-- The service is closed if, and only if, the client has closed it. -/
def Attuned (l : Life) : Prop := l.store.closed = l.poller.serviceClosed

variable {l k : Life} {e : Event}

/-- No request closes the service. -/
theorem exchange_closed {store : Http} {ask : Http.Ask} :
    (store.exchange ask).2.closed = store.closed := by
  unfold Http.exchange
  split
  · rfl
  · split
    · rfl
    · split <;> rfl

theorem Attuned.step (h : l.Attuned) (hs : l.step? e = some k) : k.Attuned := by
  cases e with
  | lists who =>
      obtain ⟨m, hm, rfl⟩ := Option.map_eq_some_iff.mp hs
      have hclosed := Poller.State.step?_serviceClosed hm
      rw [Attuned, hclosed]
      exact exchange_closed.trans (h.trans (Bool.or_false _).symm)
  | decides subject groups =>
      obtain rfl := Option.some.inj hs
      exact exchange_closed.trans h
  | acts a =>
      simp only [step?] at hs
      split at hs
      · cases hs
      · obtain ⟨m, hm, rfl⟩ := Option.map_eq_some_iff.mp hs
        rw [Attuned, Poller.State.step?_serviceClosed hm, ← show _ = _ from h]
        cases l.poller.closesService a with
        | true => simp [Http.close]
        | false => simp

end Life

/-! ## Which calls return -/

variable {q : Query} {answer : Except Failure Answers}

/-- A call that asks the service returns unless the answer breaks. -/
theorem replyOfAnswer_returns_iff : (∃ v, (replyOfAnswer q answer).value = .ok v) ↔ ¬ Breaks answer := by
  cases answer with
  | ok answers => exact iff_of_true ⟨_, rfl⟩ breaks_ok
  | error failure =>
      cases failure with
      | library e => exact iff_of_true ⟨_, rfl⟩ (by simp [Failure.isForeign])
      | foreign e =>
          refine iff_of_false ?_ (not_not_intro (by simp [Failure.isForeign]))
          rintro ⟨v, ⟨⟩⟩

theorem closed_of_ofConfig {c : Config} {store : Http} (h : Http.ofConfig c = .ok store) :
    store.closed = false := by
  simp only [Http.ofConfig, Bind.bind, Except.bind] at h
  split at h
  · cases h
  · split at h
    · cases h
    · obtain rfl := Except.ok.inj h
      rfl

/-- **Which calls return that need the service.**  A client has built its service, and anything may have
happened since.  A call that needs the service returns if, and only if, its request does not escape; it
returns the default if the service fails with an error of the library; and once the client has closed
the service, every request escapes. -/
theorem remote_calls_return_iff {c : Config} {store : Http} (hc : Http.ofConfig c = .ok store)
    {outcomes : List Http.Outcome} {events : List Life.Event} {l : Life}
    (hl : (Life.new c (store.expect outcomes)).run? events = some l) (digest : Digest)
    {snapshot : Snapshot} {q : Query} {flag : Flag} (hq : snapshot.get? q.key = some flag)
    (hn : NeedsService c.groupTypes flag q) :
    let answer := (l.store.decide q.subject q.groups).1
    let value := (getFlag Http.service digest c.groupTypes (.ok snapshot) q l.store).1.value
    ((∃ v, value = .ok v) ↔ ¬ l.store.Escapes (.decision q.subject q.groups)) ∧
      (∀ e, answer = .error (.library e) → value = .ok q.default) ∧
      l.store.closed = l.poller.serviceClosed ∧ (l.poller.serviceClosed → ∀ v, value ≠ .ok v) := by
  intro answer value
  have hvalue : value = (replyOfAnswer q answer).value := by
    simp only [value, getFlag, verdict_eq_undecided_iff.mpr ⟨flag, hq, hn⟩, answer, Http.service]
  have hreturns : (∃ v, value = .ok v) ↔ ¬ l.store.Escapes (.decision q.subject q.groups) := by
    rw [hvalue, replyOfAnswer_returns_iff, Http.decide_breaks_iff]
  have hnew : (Life.new c (store.expect outcomes)).Attuned := by
    show store.closed = false
    exact closed_of_ofConfig hc
  have hattuned : l.Attuned :=
    Poller.foldlM_keeps (P := Life.Attuned) (fun _ _ _ _ h hs => h.step hs) hnew hl
  refine ⟨hreturns, fun e he => ?_, hattuned, fun hclosed v hv => ?_⟩
  · rw [hvalue, he]
    rfl
  · exact hreturns.mp ⟨v, hv⟩ (.closed (hattuned.trans hclosed))

end Client

/-! ## A client that is shut down -/

section

variable {ε α : Type} {x : Except ε α} {a : α}

theorem eq_ok_of_toOption (h : x.toOption = some a) : x = .ok a := by
  cases x with
  | ok b => exact congrArg _ (Option.some.inj h)
  | error e => cases h

end

/-- What stands before the path in the text of a resource. -/
theorem Url.authority_eq (u : Url) : u.authority =
    (if u.userinfo.isEmpty then "" else u.userinfo ++ "@") ++
      (if ':' ∈ u.host.toList then "[" ++ u.host ++ "]" else u.host) ++
      (match u.port with | some n => ":" ++ toString n | none => "") := by
  by_cases h : ':' ∈ u.host.toList <;> cases hp : u.port <;>
    simp only [Url.authority, String.contains_char_eq, h, hp, decide_true, decide_false, if_true, if_false,
      Bool.false_eq_true]

namespace Client

/-- A configuration. -/
def flagsTest : Config where
  endpoint := "https://flags.test"
  projectKey := "phc"
  personalKey := "phx"
  pollInterval := .ofInt 30
  timeout := .ofInt 10
  groupTypes := []
  log := {}

/-- A resource of the service that it names. -/
def flagsTestUrl (path : String) (query : Option String) : Url :=
  ⟨"https", "", "flags.test", none, path, query, none⟩

/-- The service that it names. -/
def flagsTestService : Http where
  base := flagsTestUrl "" none
  token := "phc"
  authorization := "Bearer phx"

theorem flagsTestUrl_authority {path : String} {query : Option String} :
    (flagsTestUrl path query).authority = "flags.test" := by
  rw [Url.authority_eq]
  show ((if "".isEmpty then "" else "" ++ "@") ++
    (if ':' ∈ "flags.test".toList then "[" ++ "flags.test" ++ "]" else "flags.test") ++ "") = _
  decide +kernel

theorem ofConfig_flagsTest : Http.ofConfig flagsTest = .ok flagsTestService := by
  have hbase : (Url.parse (Http.dropSlashes flagsTest.endpoint)).bind Url.withSlash =
      .ok flagsTestService.base := eq_ok_of_toOption (by decide +kernel)
  have hbearer : Http.headerFailure? ("Bearer " ++ flagsTest.personalKey) = none := by decide +kernel
  simp only [Http.ofConfig, hbase, hbearer]
  rfl

variable {outcomes : List Http.Outcome}

theorem url_listing : (flagsTestService.expect outcomes).url .listing =
    .ok (flagsTestUrl "/api/feature_flag/" (some "token=phc")) := by
  have htarget : (flagsTestUrl "" none).withTarget
      ((flagsTestUrl "" none).target ++ Http.Ask.listing.path) =
      .ok (flagsTestUrl "/api/feature_flag/" none) := by
    simp only [Url.withTarget, Url.parts, flagsTestUrl_authority]
    exact eq_ok_of_toOption (by decide +kernel)
  have hquery : (flagsTestUrl "/api/feature_flag/" none).withQuery
      (Form.encode (Http.Ask.listing.form "phc")) =
      .ok (flagsTestUrl "/api/feature_flag/" (some "token=phc")) := by
    simp only [Url.withQuery, Url.parts, flagsTestUrl_authority]
    exact eq_ok_of_toOption (by decide +kernel)
  simp only [Http.url, Http.expect, flagsTestService, htarget]
  exact hquery

theorem url_decision {subject : String} {groups : Groups} {store : Http}
    (hbase : store.base = flagsTestService.base) :
    store.url (.decision subject groups) = .ok (flagsTestUrl "/decide/" (some "v=2")) := by
  have htarget : (flagsTestUrl "" none).withTarget ((flagsTestUrl "" none).target ++ "decide/") =
      .ok (flagsTestUrl "/decide/" none) := by
    simp only [Url.withTarget, Url.parts, flagsTestUrl_authority]
    exact eq_ok_of_toOption (by decide +kernel)
  have hquery : (flagsTestUrl "/decide/" none).withQuery (Form.encode [("v", "2")]) =
      .ok (flagsTestUrl "/decide/" (some "v=2")) := by
    simp only [Url.withQuery, Url.parts, flagsTestUrl_authority]
    exact eq_ok_of_toOption (by decide +kernel)
  simp only [Http.url, hbase, flagsTestService, Http.Ask.path, Http.Ask.form, htarget]
  exact hquery

/-- A listing of one flag, which has no rules. -/
def listing : List UInt8 :=
  Utf8.encode "\x7b\"results\": [\x7b\"key\": \"remote\", \"active\": true\x7d]\x7d"

/-- What is there to be listed. -/
theorem fetch_listing : ∃ flag store,
    (flagsTestService.expect (.answered 200 [] listing :: outcomes)).fetch = (.ok [flag], store) ∧
      store.base = flagsTestService.base ∧ store.closed = false ∧ store.outcomes = outcomes ∧
      flag.key = "remote" ∧ flag.active ∧ flag.isSimple = false ∧ flag.groups = [] ∧
      flag.filters.groupTypeIndex = none := by
  have hlisted : ((Http.jsonOfBody listing).toOption.bind fun v => (Flag.listOfJson v).toOption).map
      (·.map fun f => (f.key, f.active && !f.isSimple && f.groups.isEmpty &&
        f.filters.groupTypeIndex.isNone)) = some [("remote", true)] := by decide +kernel
  obtain ⟨flags, hb, hmap⟩ := Option.map_eq_some_iff.mp hlisted
  obtain ⟨v, hv, hflags⟩ := Option.bind_eq_some_iff.mp hb
  have hv := eq_ok_of_toOption hv
  have hflags := eq_ok_of_toOption hflags
  obtain ⟨flag, rfl, hflag⟩ := List.map_eq_singleton_iff.mp hmap
  simp only [Prod.mk.injEq, Bool.and_eq_true, Bool.not_eq_true', List.isEmpty_iff,
    Option.isNone_iff_eq_none] at hflag
  obtain ⟨hkey, ⟨⟨hactive, hsimple⟩, hgroups⟩, hindex⟩ := hflag
  let url := flagsTestUrl "/api/feature_flag/" (some "token=phc")
  have htext : url.text = "https://flags.test/api/feature_flag/?token=phc" := by
    simp only [url, Url.text, flagsTestUrl_authority]
    decide +kernel
  have hscheme : Http.checkScheme url = .ok () := by
    rw [Http.checkScheme, htext, if_pos (by decide +kernel)]
  have hread : Http.read Http.Ask.listing.context url 200 [] listing = .ok v := by
    have hp : Http.Received Http.Ask.listing.context [] listing listing := ⟨rfl, rfl⟩
    rw [Http.read_eq_of_received hp, hscheme, Http.checkRedirect_of_ok, hv]
    rfl
  let service := flagsTestService.expect (.answered 200 [] listing :: outcomes)
  let after : Http := { service with outcomes, sent := [service.request .listing url] }
  have hexchange : service.exchange .listing = (.ok v, after) := by
    rw [Http.exchange_eq url_listing rfl rfl]
    exact Prod.ext hread rfl
  refine ⟨flag, after, ?_, rfl, rfl, rfl, hkey, hactive, hsimple, hgroups, hindex⟩
  show (Http.decoded Flag.listOfJson (service.exchange .listing).1, (service.exchange .listing).2) = _
  rw [hexchange]
  simp only [Http.decoded, Except.bind, hflags]
  rfl

/-- The client starts its poller, and the loop comes to its first listing. -/
def beginning : List Life.Event := Poller.startUp.map .acts

/-- The loop publishes what was listed, and comes to its wait. -/
def publication : List Life.Event := List.replicate 5 (.acts (.runs .loop))

/-- The client is shut down, and the loop ends. -/
def shutdown : List Life.Event :=
  (Poller.calls 0 .stopAndClose 4).map .acts ++ List.replicate 2 (.acts (.runs .loop)) ++
    List.replicate 5 (.acts (.runs (.caller 0)))

/-- The query for the flag that was listed. -/
def ofRemote : Query where
  key := "remote"
  subject := "u"
  default := .str "fallback"

/-- A client whose first listing succeeds publishes it, can be shut down, and has its snapshot still. -/
theorem exists_published : ∃ l k flag,
    (Life.new flagsTest (flagsTestService.expect (.answered 200 [] listing :: outcomes))).run?
      (beginning ++ .lists .loop :: publication) = some l ∧
    l.store.base = flagsTestService.base ∧ l.store.closed = false ∧ l.store.outcomes = outcomes ∧
    l.poller.snapshot.get? ofRemote.key = some flag ∧
    NeedsService flagsTest.groupTypes flag ofRemote ∧
    l.run? shutdown = some k ∧ k.store = l.store.close ∧ k.poller.snapshot = l.poller.snapshot ∧
    k.poller.phase = .stopped ∧ k.poller.pending .loop = [] ∧ k.poller.pending (.caller 0) = [] := by
  obtain ⟨flag, after, hfetch, hbase, hclosed, houtcomes, hkey, hactive, hsimple, hgroups, hindex⟩ :=
    @fetch_listing outcomes
  let l₀ := Life.new flagsTest (flagsTestService.expect (.answered 200 [] listing :: outcomes))
  have hbegun : (l₀.run? beginning).isSome := rfl
  let l₁ := (l₀.run? beginning).get hbegun
  -- the listing is what the service answers, and nothing that the poller does depends on more of it
  have hlists : l₁.step? (.lists .loop) =
      (l₁.poller.step? (.answers .loop (.ok [flag]))).map fun m => ⟨m.state, after⟩ := by
    have hstore : l₁.store.fetch = (.ok [flag], after) := hfetch
    simp only [Life.step?, hstore]
  have hanswered : (l₁.poller.step? (.answers .loop (.ok [flag]))).isSome := rfl
  let l₂ : Life := ⟨((l₁.poller.step? (.answers .loop (.ok [flag]))).get hanswered).state, after⟩
  have hpublished : (l₂.run? publication).isSome := rfl
  let l₃ := (l₂.run? publication).get hpublished
  have hstopped : (l₃.run? shutdown).isSome := rfl
  refine ⟨l₃, (l₃.run? shutdown).get hstopped, flag, ?_, hbase, hclosed, houtcomes, ?_, ?_,
    (Option.some_get hstopped).symm, rfl, rfl, rfl, rfl, rfl⟩
  · rw [Life.run?_append (Option.some_get hbegun).symm, Life.run?_cons, hlists,
      ← Option.some_get hanswered]
    exact (Option.some_get hpublished).symm
  · show (Snapshot.ofFlags [flag]).get? "remote" = some flag
    simp [Snapshot.ofFlags, Snapshot.get?, Snapshot.indexFlag, hactive, hkey]
  · refine .rules (fun index hi => ?_) ?_ hgroups hsimple
    · rw [hindex] at hi
      cases hi
    · simp [decidedFor?, hindex]

/-- The exchange breaks down in which the service is asked about the flag: the caller gets the
default. -/
theorem broken_decision_gives_default : ∃ l flag,
    Http.ofConfig flagsTest = .ok flagsTestService ∧
    (Life.new flagsTest (flagsTestService.expect
      [.answered 200 [] listing, .broken "connection reset"])).run?
      (beginning ++ .lists .loop :: publication) = some l ∧
    l.poller.snapshot.get? ofRemote.key = some flag ∧
    NeedsService flagsTest.groupTypes flag ofRemote ∧
    (getFlag Http.service (fun _ => "") flagsTest.groupTypes (.ok l.poller.snapshot) ofRemote
      l.store).1.value = .ok (.str "fallback") := by
  obtain ⟨l, _, flag, hl, hbase, hclosed, houtcomes, hget, hn, _⟩ :=
    @exists_published [.broken "connection reset"]
  obtain ⟨_, hdefault, _⟩ := remote_calls_return_iff ofConfig_flagsTest hl (fun _ => "") hget hn
  have hbroken : (l.store.decide "u" []).1 =
      .error (.library (.transport "Error calling /decide/: connection reset" none)) := by
    simp only [Http.decide, Http.exchange_eq (url_decision hbase) rfl hclosed, houtcomes]
    rfl
  exact ⟨l, flag, ofConfig_flagsTest, hl, hget, hn, hdefault _ hbroken⟩

/-- The client is shut down and at rest, and the next call for the flag does not return. -/
theorem decision_after_shutdown_escapes : ∃ l k flag,
    Http.ofConfig flagsTest = .ok flagsTestService ∧
    (Life.new flagsTest (flagsTestService.expect [.answered 200 [] listing])).run?
      (beginning ++ .lists .loop :: publication) = some l ∧ l.run? shutdown = some k ∧
    k.poller.phase = .stopped ∧ k.poller.pending .loop = [] ∧ k.poller.pending (.caller 0) = [] ∧
    k.poller.snapshot.get? ofRemote.key = some flag ∧
    NeedsService flagsTest.groupTypes flag ofRemote ∧
    (getFlag Http.service (fun _ => "") flagsTest.groupTypes (.ok k.poller.snapshot) ofRemote
      k.store).1.value =
        .error ⟨.runtime, "Cannot send a request, as the client has been closed."⟩ := by
  obtain ⟨l, k, flag, hl, hbase, _, _, hget, hn, hk, hstore, hsnapshot, hphase, hloop, hcaller⟩ :=
    @exists_published []
  have hget : k.poller.snapshot.get? ofRemote.key = some flag := by rw [hsnapshot, hget]
  refine ⟨l, k, flag, ofConfig_flagsTest, hl, hk, hphase, hloop, hcaller, hget, hn, ?_⟩
  have hurl : k.store.url (.decision "u" []) = .ok (flagsTestUrl "/decide/" (some "v=2")) :=
    url_decision (by rw [hstore]; exact hbase)
  have hclosed : k.store.closed := by rw [hstore]; rfl
  have hdecide : (k.store.decide "u" []).1 = .error Http.closedFailure := by
    simp only [Http.decide, Http.exchange, hurl, hclosed, if_true]
    rfl
  simp only [getFlag, verdict_eq_undecided_iff.mpr ⟨flag, hget, hn⟩]
  show (replyOfAnswer ofRemote (k.store.decide "u" []).1).value = _
  rw [hdecide]
  rfl

end Client

end FeatureFlags
