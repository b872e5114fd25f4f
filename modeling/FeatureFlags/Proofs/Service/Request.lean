import FeatureFlags.Proofs.Client.Lifetime
import FeatureFlags.Proofs.Json.Reread
import FeatureFlags.Proofs.Net.Resource

/-!
# `Proofs.Service.Request` — what requests carry

The listing carries the key of the project in its query, a decision the subject and its groups in its body.
Both are written by encoders of their own, a form and a JSON text, and both are read back as they were
(`Form.decode_encode`, `Http.jsonOfBody_encode`), whatever characters they have.

A request has a resource that does not depend on its form, but for the length that a query may have
(`url_eq_ok_iff`).  So it is known for each operation when it sends a request, and what the request carries
(`requests_carry_their_data`); in all other cases it sends nothing.

## Contents

1. Queries of resources
2. The resource of a request
3. What a request carries
4. The life of a service
-/

namespace FeatureFlags

/-! ## Queries of resources -/

namespace Url

/-- A part with nothing unprintable in it is accepted if it is not too long. -/
theorem checkPart_eq_ok {part : String} {cs : List Char} (h : ∀ c ∈ cs, isControl c = false) :
    checkPart part cs = .ok () ↔ cs.length ≤ maxLength := by
  have hcontrol : control? cs = none := by
    rw [control?, List.find?_eq_none.mpr fun c hc => by simp [h c hc]]
    rfl
  unfold checkPart
  split_ifs with hlength
  · exact iff_of_false (by rintro ⟨⟩) (by omega)
  · rw [hcontrol]
    exact iff_of_true rfl (by omega)

/-- The form of parts depends on their query in the query alone. -/
theorem ofParts_query (p : Parts) (q : List Char) :
    ofParts { p with query := some q } = (ofParts { p with query := some [] }).map fun u =>
      { u with query := some (String.ofList (Percent.quote keptInQuery q)) } := by
  unfold ofParts
  dsimp only
  cases hostForm (Option.getD none (Parts.splitHost p.authority).2.1) with
  | error e => rfl
  | ok host =>
      cases portForm (String.ofList (p.scheme.map Char.toLower)) (Parts.splitHost p.authority).2.2 with
      | error e => rfl
      | ok port =>
          simp only [bind, Except.bind]
          split <;> rfl

/-- Changed parts make a resource if each of them is accepted. -/
theorem reform_eq_ok {p : Parts} {q : List Char} {v : Url} :
    reform { p with query := some q } = .ok v ↔ checkPart "query" q = .ok () ∧
      (checkPart "scheme" p.scheme = .ok () ∧ checkPart "authority" p.authority = .ok () ∧
        checkPart "path" p.path = .ok () ∧ checkPart "fragment" (p.fragment.getD []) = .ok ()) ∧
      ofParts { p with query := some q } = .ok v := by
  have hhost : checkPart "host" [] = .ok () := rfl
  simp only [reform, bind_eq_ok, Option.getD_some, Option.getD_none, hhost]
  constructor
  · rintro ⟨_, hs, _, ha, _, hp, _, hq, _, hf, _, -, hv⟩
    exact ⟨hq, ⟨hs, ha, hp, hf⟩, hv⟩
  · rintro ⟨hq, ⟨hs, ha, hp, hf⟩, hv⟩
    exact ⟨(), hs, (), ha, (), hp, (), hq, (), hf, (), trivial, hv⟩

/-- **A resource is given another query** if it is given any, and the query is not too long. -/
theorem withQuery_eq_ok {u v : Url} {q : List Char} (h : ∀ c ∈ q, isControl c = false) :
    u.withQuery q = .ok v ↔ q.length ≤ maxLength ∧ ∃ s, u.withQuery [] = .ok s ∧
      v = { s with query := some (String.ofList (Percent.quote keptInQuery q)) } := by
  have hempty : checkPart "query" [] = .ok () := rfl
  have hquery : ofParts { u.parts with query := some q } = .ok v ↔
      ∃ s, ofParts { u.parts with query := some [] } = .ok s ∧
        v = { s with query := some (String.ofList (Percent.quote keptInQuery q)) } := by
    rw [ofParts_query]
    cases ofParts { u.parts with query := some [] } with
    | error e => simp [Except.map]
    | ok s => simp [Except.map, eq_comm]
  rw [withQuery, withQuery, reform_eq_ok, checkPart_eq_ok h, hquery]
  constructor
  · rintro ⟨hlength, hparts, s, hs, hv⟩
    exact ⟨hlength, s, reform_eq_ok.mpr ⟨hempty, hparts, hs⟩, hv⟩
  · rintro ⟨hlength, s, hs, hv⟩
    obtain ⟨-, hparts, hs⟩ := reform_eq_ok.mp hs
    exact ⟨hlength, hparts, s, hs, hv⟩

end Url

/-! ## The resource of a request -/

namespace Http

variable {h : Http} {ask : Ask} {u : Url}

/-- A listing leaves the service as its request does, whatever is made of the answer. -/
theorem fetch_snd (h : Http) : h.fetch.2 = (h.exchange .listing).2 := by
  rw [fetch]

theorem decide_snd (h : Http) (subject : String) (groups : Groups) :
    (h.decide subject groups).2 = (h.exchange (.decision subject groups)).2 := by
  rw [decide]

/-- The resource of a request, without a form. -/
def site (h : Http) (ask : Ask) : Except UrlError Url := do
  let u ← h.base.withTarget (h.base.target ++ ask.path)
  u.withQuery []

/-- A request leads somewhere: it has a resource, on a host that is one. -/
def Reaches (h : Http) (ask : Ask) : Prop := ∃ s host, h.site ask = .ok s ∧ s.plainHost = .ok host

/-- The form of a request fits into a query. -/
def Fits (h : Http) (ask : Ask) : Prop := (Form.encode (ask.form h.token)).length ≤ Url.maxLength

/-- The resource of a request is that without a form, with the form as its query. -/
theorem url_eq_ok_iff : h.url ask = .ok u ↔ h.Fits ask ∧ ∃ s, h.site ask = .ok s ∧
    u = { s with query := some (String.ofList (Form.encode (ask.form h.token))) } := by
  have hform : ∀ c ∈ Form.encode (ask.form h.token), Url.isControl c = false :=
    fun c hc => Form.isControl_of_mem_encode hc
  rw [url, site, bind_eq_ok]
  simp only [bind_eq_ok, Url.withQuery_eq_ok hform, Form.quote_encode]
  constructor
  · rintro ⟨t, ht, hfits, s, hs, hu⟩
    exact ⟨hfits, s, ⟨t, ht, hs⟩, hu⟩
  · rintro ⟨hfits, s, ⟨t, ht, hs⟩, hu⟩
    exact ⟨t, ht, hfits, s, hs, hu⟩

/-- The query of a resource makes no difference to its host. -/
theorem exists_url_iff : (∃ u host, h.url ask = .ok u ∧ u.plainHost = .ok host) ↔
    h.Fits ask ∧ h.Reaches ask := by
  constructor
  · rintro ⟨u, host, hu, hhost⟩
    obtain ⟨hfits, s, hs, rfl⟩ := url_eq_ok_iff.mp hu
    exact ⟨hfits, s, host, hs, hhost⟩
  · rintro ⟨hfits, s, host, hs, hhost⟩
    exact ⟨_, host, url_eq_ok_iff.mpr ⟨hfits, s, hs, rfl⟩, hhost⟩

/-- A decision's form is short. -/
theorem fits_decision (subject : String) (groups : Groups) : h.Fits (.decision subject groups) := by
  show (Form.encode [("v", "2")]).length ≤ Url.maxLength
  decide +kernel

/-- A request is sent if the service is not closed, the request leads somewhere, and its form fits. -/
theorem exists_sent (hc : h.closed = false) (hfits : h.Fits ask) (hr : h.Reaches ask) :
    ∃ u, h.url ask = .ok u ∧ (h.exchange ask).2.sent = h.sent ++ [h.request ask u] := by
  obtain ⟨u, host, hu, hhost⟩ := exists_url_iff.mpr ⟨hfits, hr⟩
  refine ⟨u, hu, ?_⟩
  rw [exchange_eq hu hhost hc]

/-- Otherwise none is sent. -/
theorem sent_eq (hnot : ¬ (h.closed = false ∧ h.Fits ask ∧ h.Reaches ask)) :
    (h.exchange ask).2.sent = h.sent := by
  cases hu : h.url ask with
  | error e => simp only [exchange, hu, mapError_error]
  | ok u =>
      cases hhost : u.plainHost with
      | error e => simp only [exchange, hu, hhost, mapError_ok, mapError_error]
      | ok host =>
          have hclosed : h.closed := by
            by_contra hopen
            exact hnot ⟨Bool.eq_false_iff.mpr hopen, exists_url_iff.mp ⟨u, host, hu, hhost⟩⟩
          simp only [exchange, hu, hhost, mapError_ok, hclosed, if_true]

/-- What is sent is the request for the resource. -/
theorem exists_of_sent {r : Request} (hs : (h.exchange ask).2.sent = h.sent ++ [r]) :
    ∃ u, h.url ask = .ok u ∧ r = h.request ask u := by
  by_cases hcan : h.closed = false ∧ h.Fits ask ∧ h.Reaches ask
  · obtain ⟨u, hu, hsent⟩ := exists_sent hcan.1 hcan.2.1 hcan.2.2
    have hrequest := List.append_cancel_left (hs.symm.trans hsent)
    exact ⟨u, hu, List.singleton_inj.mp hrequest⟩
  · have hlength := congrArg List.length ((sent_eq hcan).symm.trans hs)
    simp at hlength

/-! ## What a request carries -/

namespace Request

/-- The form in the query of a request. -/
def form (r : Request) : List (String × String) :=
  Form.decode ((Url.Parts.ofText r.url.toList).query.getD [])

/-- The value that the body of a request is read as. -/
def content (r : Request) : Except Json.Reader.Fault Json := jsonOfBody (Utf8.encode r.body)

end Request

/-- **A request carries its form.** -/
theorem form_request (hbase : h.base.Framed) (hu : h.url ask = .ok u) :
    (h.request ask u).form = ask.form h.token := by
  have hframed : u.Framed := by
    obtain ⟨t, ht, hu⟩ := bind_eq_ok.mp hu
    exact (hbase.withTarget ht).withQuery hu
  obtain ⟨-, s, -, rfl⟩ := url_eq_ok_iff.mp hu
  have hquery := Url.query_text hframed
  rw [Request.form, request, hquery, Option.map_some, Option.getD_some, String.toList_ofList,
    Form.decode_encode]

/-- The groups of a subject as an object. -/
def groupsContent (groups : Groups) : Json := .obj (groups.map fun (type, key) => (type, .str key))

/-- What a decision carries. -/
def decisionContent (token subject : String) (groups : Groups) : Json :=
  .obj [("api_key", .str token), ("distinct_id", .str subject), ("groups", groupsContent groups)]

theorem readsBack_groupsContent {groups : Groups} (hg : (groups.map Prod.fst).Nodup) (room : Nat) :
    Json.ReadsBack (room + 1) (groupsContent groups) := by
  refine Json.readsBack_obj ?_ fun m hm => ?_
  · rwa [List.map_map]
  · obtain ⟨⟨type, key⟩, -, rfl⟩ := List.mem_map.mp hm
    exact Json.readsBack_str room key

/-- **A decision carries its subject and its groups.** -/
theorem content_request {subject : String} {groups : Groups} (hg : (groups.map Prod.fst).Nodup) (u : Url) :
    (h.request (.decision subject groups) u).content = .ok (decisionContent h.token subject groups) := by
  have hnames : (["api_key", "distinct_id", "groups"] : List String).Nodup := by decide
  refine jsonOfBody_encode (Json.readsBack_obj hnames fun m hm => ?_)
  simp only [List.mem_cons, List.not_mem_nil, or_false] at hm
  rcases hm with rfl | rfl | rfl
  · exact Json.readsBack_str _ _
  · exact Json.readsBack_str _ _
  · exact readsBack_groupsContent hg _

/-- Decisions on different subjects, or with different groups, carry different values. -/
theorem eq_of_decisionContent {token token' subject subject' : String} {groups groups' : Groups}
    (heq : decisionContent token subject groups = decisionContent token' subject' groups') :
    subject = subject' ∧ groups = groups' := by
  simp only [decisionContent, groupsContent, Json.obj.injEq, List.cons.injEq, Prod.mk.injEq, Json.str.injEq,
    true_and, and_true] at heq
  obtain ⟨-, hsubject, hgroups⟩ := heq
  refine ⟨hsubject, (List.map_injective_iff.mpr ?_) hgroups⟩
  rintro ⟨type, key⟩ ⟨type', key'⟩ hmember
  simpa using hmember

/-! ## The life of a service -/

/-- The service of a configuration, as it can be at any time. -/
inductive Evolves (c : Config) : Http → Prop where
  | built {h : Http} (hh : ofConfig c = .ok h) : Evolves c h
  | fetches {h : Http} (hh : Evolves c h) : Evolves c h.fetch.2
  | decides {h : Http} (hh : Evolves c h) (subject : String) (groups : Groups) :
      Evolves c (h.decide subject groups).2
  | closes {h : Http} (hh : Evolves c h) : Evolves c h.close
  | expects {h : Http} (hh : Evolves c h) (outcomes : List Outcome) : Evolves c (h.expect outcomes)

/-- A service is that of a configuration: it has its project key, and a base that was read from a text. -/
structure Serves (c : Config) (h : Http) : Prop where
  token : h.token = c.projectKey
  base : h.base.Framed

variable {c : Config}

theorem serves_of_ofConfig (hh : ofConfig c = .ok h) : Serves c h := by
  obtain ⟨base, hbase, hh⟩ := bind_eq_ok.mp hh
  have hframed : base.Framed := by
    cases hparse : Url.parse (dropSlashes c.endpoint) with
    | error e => simp [hparse, Except.bind] at hbase
    | ok u =>
        have hu := Url.parse_framed hparse
        cases hslash : u.withSlash with
        | error e => simp [hparse, Except.bind, hslash] at hbase
        | ok v =>
            obtain rfl : v = base := by simpa [hparse, Except.bind, hslash] using hbase
            unfold Url.withSlash at hslash
            split at hslash
            · exact Except.ok.inj hslash ▸ hu
            · exact hu.withTarget hslash
  dsimp only at hh
  split at hh
  · cases hh
  · obtain rfl := Except.ok.inj hh
    exact ⟨rfl, hframed⟩

/-- A request leaves the base and the project key of a service alone. -/
theorem Serves.exchange (hs : Serves c h) (ask : Ask) : Serves c (h.exchange ask).2 := by
  unfold Http.exchange
  split
  · exact hs
  · split
    · exact hs
    · split
      · exact hs
      · exact ⟨hs.token, hs.base⟩

theorem Evolves.serves (hh : Evolves c h) : Serves c h := by
  induction hh with
  | built hh => exact serves_of_ofConfig hh
  | fetches _ ih =>
      rw [fetch_snd]
      exact ih.exchange .listing
  | decides _ subject groups ih =>
      rw [decide_snd]
      exact ih.exchange (.decision subject groups)
  | closes _ ih => exact ⟨ih.token, ih.base⟩
  | expects _ outcomes ih => exact ⟨ih.token, ih.base⟩

/-- **Requests carry their data faithfully.**  A service that is not closed, and whose request leads
somewhere, sends one request for each operation, and nothing otherwise.

The query of a listing is read back as the project key alone, unless the key does not fit into a query at
all.  The body of a decision is read back as the project key, the subject and its groups, and nothing else.
So decisions on different subjects, or with different groups, never have the same body. -/
theorem requests_carry_their_data (hh : Evolves c h) :
    (h.closed = false ∧ h.Fits .listing ∧ h.Reaches .listing →
      ∃ r, h.fetch.2.sent = h.sent ++ [r] ∧ r.method = "GET" ∧ r.form = [("token", c.projectKey)]) ∧
    (¬ (h.closed = false ∧ h.Fits .listing ∧ h.Reaches .listing) → h.fetch.2.sent = h.sent) ∧
    (∀ subject groups, (groups.map Prod.fst).Nodup →
      (h.closed = false ∧ h.Reaches (.decision subject groups) →
        ∃ r, (h.decide subject groups).2.sent = h.sent ++ [r] ∧ r.method = "POST" ∧
          r.content = .ok (.obj [("api_key", .str c.projectKey), ("distinct_id", .str subject),
            ("groups", .obj (groups.map fun (type, key) => (type, .str key)))])) ∧
      (¬ (h.closed = false ∧ h.Reaches (.decision subject groups)) →
        (h.decide subject groups).2.sent = h.sent)) ∧
    ∀ c' h', Evolves c' h' → ∀ subject groups subject' groups' r r', (groups.map Prod.fst).Nodup →
      (groups'.map Prod.fst).Nodup → (h.decide subject groups).2.sent = h.sent ++ [r] →
      (h'.decide subject' groups').2.sent = h'.sent ++ [r'] → r.body = r'.body →
      subject = subject' ∧ groups = groups' := by
  have hs := hh.serves
  simp only [fetch_snd, decide_snd]
  refine ⟨?_, ?_, ?_, ?_⟩
  · rintro ⟨hc, hfits, hr⟩
    obtain ⟨u, hu, hsent⟩ := exists_sent hc hfits hr
    refine ⟨_, hsent, rfl, ?_⟩
    rw [form_request hs.base hu, hs.token]
    rfl
  · exact sent_eq
  · intro subject groups hg
    constructor
    · rintro ⟨hc, hr⟩
      obtain ⟨u, hu, hsent⟩ := exists_sent hc (fits_decision subject groups) hr
      refine ⟨_, hsent, rfl, ?_⟩
      rw [content_request hg u, hs.token]
      rfl
    · intro hnot
      exact sent_eq fun hcan => hnot ⟨hcan.1, hcan.2.2⟩
  · intro c' h' hh' subject groups subject' groups' r r' hg hg' hsent hsent' hbody
    obtain ⟨u, -, rfl⟩ := exists_of_sent hsent
    obtain ⟨u', -, rfl⟩ := exists_of_sent hsent'
    -- equal bodies are read as the same value
    have hcontent : (h.request (.decision subject groups) u).content =
        (h'.request (.decision subject' groups') u').content :=
      congrArg (fun body => jsonOfBody (Utf8.encode body)) hbody
    rw [content_request hg, content_request hg'] at hcontent
    exact eq_of_decisionContent (Except.ok.inj hcontent)

/-- A quote, a separator and a letter beyond ASCII reach the service as they are. -/
theorem odd_subject_is_carried :
    ofConfig Client.flagsTest = .ok Client.flagsTestService ∧
    (∃ r, Client.flagsTestService.fetch.2.sent = [r] ∧ r.form = [("token", "phc")]) ∧
    ∃ r, (Client.flagsTestService.decide "a\"&é" [("company", "b\\=c")]).2.sent = [r] ∧
      r.content = .ok (.obj [("api_key", .str "phc"), ("distinct_id", .str "a\"&é"),
        ("groups", .obj [("company", .str "b\\=c")])]) := by
  have hreaches : Client.flagsTestService.Fits .listing ∧ Client.flagsTestService.Reaches .listing :=
    exists_url_iff.mp ⟨_, _, Client.url_listing, rfl⟩
  have hdecision : Client.flagsTestService.Reaches (.decision "a\"&é" [("company", "b\\=c")]) :=
    (exists_url_iff.mp ⟨_, _, Client.url_decision rfl, rfl⟩).2
  obtain ⟨hfetch, -, hdecide, -⟩ := requests_carry_their_data (Evolves.built Client.ofConfig_flagsTest)
  obtain ⟨r, hsent, -, hform⟩ := hfetch ⟨rfl, hreaches⟩
  obtain ⟨q, hposted, -, hcontent⟩ := (hdecide _ _ (by simp)).1 ⟨rfl, hdecision⟩
  exact ⟨Client.ofConfig_flagsTest, ⟨r, hsent, hform⟩, q, hposted, hcontent⟩

end Http

end FeatureFlags
