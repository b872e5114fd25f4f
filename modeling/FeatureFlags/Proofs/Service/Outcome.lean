import FeatureFlags.Proofs.Client.Lifetime

/-!
# `Proofs.Service.Outcome` — how outcomes are classified

What comes of a request reaches the library as a `Delivery`: the exchange broke down, or there is an answer
with a status and a content, its codings undone (`Delivers`).  A request to which nothing is delivered ends
in a failure that is not the library's own (`exists_receives_or_breaks`).

`Classified` lists what deliveries come to, one constructor for each kind.  Both operations come to that
and to nothing else (`outcomes_are_classified`), as long as the text of a refusal can be given and what is
meant to be JSON is not nested too deeply (`Delivery.Legible`).

## Contents

1. Deliveries
2. What an outcome delivers
3. What a request receives
4. The classification
-/

namespace FeatureFlags

/-! ## Deliveries -/

namespace Http

/-- What the library is given for a request. -/
inductive Delivery where
  | answer (status : Int) (headers : List (String × String)) (content : List UInt8)
  /-- The exchange broke down. -/
  | breakdown (message : String)

namespace Delivery

/-- What a delivery says. -/
def read (context : String) : Delivery → Except Failure Json
  | .breakdown message => .error (transportFailure context message none)
  | .answer status headers content =>
    if status = 200 then (jsonOfBody content).mapError (jsonFailure context)
    else do
      let text ← bodyText headers content
      throw (transportFailure context ("HTTP " ++ toString status ++ ": " ++ text) (some status))

/-- The text of a refusal can be given, and JSON fails to be read for no other reason than that it is
none. -/
inductive Legible : Delivery → Prop where
  | breakdown {message : String} : Legible (.breakdown message)
  | json {headers : List (String × String)} {content : List UInt8}
      (hj : ∀ holder, jsonOfBody content ≠ .error (.tooDeep holder)) :
      Legible (.answer 200 headers content)
  | text {status : Int} {headers : List (String × String)} {content : List UInt8} {text : String}
      (hs : status ≠ 200) (ht : bodyText headers content = .ok text) :
      Legible (.answer status headers content)

end Delivery

/-- **What of an outcome is delivered.**  An answer is delivered if its headers are in order, its codings
can be undone, its resource has a scheme and the place that it points to, if any, is one.  If the codings
cannot be undone, or the text of the place cannot be read, the exchange counts as broken down. -/
inductive Delivers (context : String) (u : Url) : Outcome → Delivery → Prop where
  | answer {status : Int} {headers : List (String × String)} {body content : List UInt8}
      (hp : Received context headers body content) (hs : hasScheme u.text)
      (hr : checkRedirect context u status headers = .ok ()) :
      Delivers context u (.answered status headers body) (.answer status headers content)
  | broken {message : String} : Delivers context u (.broken message) (.breakdown message)
  | coding {status : Int} {headers : List (String × String)} {body : List UInt8} {message : String}
      (hh : checkHeaders headers = .ok ())
      (hb : plainBody context headers body = .error (transportFailure context message none)) :
      Delivers context u (.answered status headers body) (.breakdown message)
  | location {status : Int} {headers : List (String × String)} {body content : List UInt8}
      {location : String} {e : UrlError} (hp : Received context headers body content)
      (hs : hasScheme u.text) (hl : header? "location" headers = some location)
      (hredirect : Redirect.statuses.contains status)
      (hf : Redirect.place u location = .error (.unreadable e)) :
      Delivers context u (.answered status headers body)
        (.breakdown ("Invalid URL in location header: " ++ e.message ++ "."))

/-- The headers of an answer are in order, and it is neither coded nor points elsewhere. -/
structure Plain (headers : List (String × String)) : Prop where
  ascii : checkHeaders headers = .ok ()
  uncoded : header? "content-encoding" headers = none
  final : header? "location" headers = none

/-- A request receives what is delivered of the next outcome: it has a resource, on a host that is one,
and the service is not closed. -/
inductive Receives (h : Http) (ask : Ask) (d : Delivery) : Prop where
  | intro {u : Url} {host : List Char} (hu : h.url ask = .ok u) (hh : u.plainHost = .ok host)
      (hc : h.closed = false)
      (hd : Delivers ask.context u (h.outcomes.head?.getD (.broken "no response")) d)

/-- **What deliveries come to.** -/
inductive Classified {α : Type} (context : String) (decode : Json → Except DecodeError α) :
    Delivery → Except Failure α → Prop where
  /-- The exchange broke down. -/
  | breakdown {message : String} : Classified context decode (.breakdown message)
      (.error (.library (.transport (context ++ ": " ++ message) none)))
  /-- An answer has another status than 200. -/
  | refusal {status : Int} {headers : List (String × String)} {content : List UInt8} {text : String}
      (hs : status ≠ 200) (ht : bodyText headers content = .ok text) :
      Classified context decode (.answer status headers content)
        (.error (.library (.transport (context ++ ": HTTP " ++ toString status ++ ": " ++ text)
          (some status))))
  /-- Of an answer with status 200 the content is no JSON. -/
  | notJson {headers : List (String × String)} {content : List UInt8}
      (hj : jsonOfBody content = .error .malformed) :
      Classified context decode (.answer 200 headers content)
        (.error (.library (DecodeError.notJson context).report))
  /-- It is JSON, of a shape that is not expected. -/
  | shape {headers : List (String × String)} {content : List UInt8} {v : Json} {e : DecodeError}
      (hj : jsonOfBody content = .ok v) (hv : decode v = .error e) :
      Classified context decode (.answer 200 headers content) (.error (.library e.report))
  /-- It is JSON of the expected shape. -/
  | value {headers : List (String × String)} {content : List UInt8} {v : Json} {a : α}
      (hj : jsonOfBody content = .ok v) (hv : decode v = .ok a) :
      Classified context decode (.answer 200 headers content) (.ok a)

section

variable {context : String} {u : Url} {status : Int} {headers : List (String × String)}
  {body content : List UInt8} {d : Delivery} {outcome : Outcome} {failure : Failure}

/-- A content of no type is text in UTF-8, whatever its bytes. -/
theorem Delivery.legible_of_untyped (hs : status ≠ 200) (hh : header? "content-type" headers = none) :
    (answer status headers content).Legible := by
  obtain ⟨text, ht⟩ : ∃ text, bodyText headers content = .ok text := by
    cases content with
    | nil => exact ⟨_, rfl⟩
    | cons b rest =>
        simp only [bodyText, hh]
        exact ⟨_, rfl⟩
  exact .text hs ht

/-! ## What an outcome delivers -/

theorem checkScheme_of_hasScheme (h : hasScheme u.text) : checkScheme u = .ok () := if_pos h

/-- What an outcome says is what its delivery says. -/
theorem Delivers.read_eq (h : Delivers context u outcome d) : outcome.read context u = d.read context := by
  cases h with
  | answer hp hs hr =>
      rw [Outcome.read, read_eq_of_received hp, checkScheme_of_hasScheme hs, hr]
      rfl
  | broken => rfl
  | coding hh hb =>
      rw [Outcome.read, Http.read, hh, hb]
      rfl
  | @location status headers _ _ _ e hp hs hl hredirect hf =>
      have hr : checkRedirect context u status headers =
          .error (redirectFailure context (.unreadable e)) := by
        rw [checkRedirect, hl]
        simp only [hredirect, if_true, hf]
        rfl
      rw [Outcome.read, read_eq_of_received hp, checkScheme_of_hasScheme hs, hr]
      rfl

/-- Codings that cannot be undone are a breakdown. -/
theorem exists_of_plainBody (h : plainBody context headers body = .error failure) :
    ∃ message, failure = transportFailure context message none := by
  unfold plainBody at h
  cases hb : Coding.undoAll (((header? "content-encoding" headers).map Coding.ofHeader).getD []) body with
  | ok content => simp [hb] at h
  | error e =>
      refine ⟨e.message, ?_⟩
      simpa [hb] using h.symm

/-- An answer that points elsewhere fails because of the place. -/
theorem exists_of_checkRedirect (h : checkRedirect context u status headers = .error failure) :
    ∃ location fault, header? "location" headers = some location ∧ Redirect.statuses.contains status ∧
      Redirect.place u location = .error fault := by
  unfold checkRedirect at h
  cases hl : header? "location" headers with
  | none => simp [hl] at h
  | some location =>
      by_cases hs : Redirect.statuses.contains status
      · cases hf : Redirect.place u location with
        | ok place => simp [hl, hf, Except.map] at h
        | error fault => exact ⟨location, fault, rfl, hs, hf⟩
      · simp only [hl, hs] at h
        cases h

/-- Something is delivered of an answer that was received, or the answer cannot be read. -/
theorem exists_delivers_of_received (hp : Received context headers body content) :
    (∃ d, Delivers context u (.answered status headers body) d) ∨
      Unreadable context u status headers body := by
  cases hs : hasScheme u.text with
  | false => exact .inr (.scheme hp hs)
  | true =>
      cases hr : checkRedirect context u status headers with
      | ok _ => exact .inl ⟨_, .answer hp hs hr⟩
      | error failure =>
          obtain ⟨location, fault, hl, hredirect, hf⟩ := exists_of_checkRedirect hr
          by_cases hunreadable : ∃ e, fault = .unreadable e
          · obtain ⟨e, rfl⟩ := hunreadable
            exact .inl ⟨_, .location hp hs hl hredirect hf⟩
          · exact .inr (.redirect hp hl hredirect hf fun e he => hunreadable ⟨e, he⟩)

/-- Something is delivered of an outcome, or the outcome is a failure that is not the library's own. -/
theorem exists_delivers_or_breaks :
    (∃ d, Delivers context u outcome d) ∨ Breaks (outcome.read context u) := by
  cases outcome with
  | broken message => exact .inl ⟨_, .broken⟩
  | «foreign» e => exact .inr ⟨_, rfl, rfl⟩
  | answered status headers body =>
      by_cases hh : checkHeaders headers = .ok ()
      · cases hb : plainBody context headers body with
        | error failure =>
            obtain ⟨message, rfl⟩ := exists_of_plainBody hb
            exact .inl ⟨_, .coding hh hb⟩
        | ok content => exact (exists_delivers_of_received ⟨hh, hb⟩).imp id read_breaks_iff.mpr
      · exact .inr (read_breaks_iff.mpr (.headers hh))

/-! ## What a request receives -/

variable {h : Http} {ask : Ask}

/-- What a request comes to is what it receives. -/
theorem Receives.exchange_eq (hd : h.Receives ask d) : (h.exchange ask).1 = d.read ask.context := by
  obtain ⟨hu, hh, hc, hd⟩ := hd
  rw [Http.exchange_eq hu hh hc]
  exact hd.read_eq

/-- A request receives something, or it ends in a failure that is not the library's own. -/
theorem exists_receives_or_breaks : (∃ d, h.Receives ask d) ∨ Breaks (h.exchange ask).1 := by
  by_cases hescapes : h.Escapes ask
  · exact .inr (exchange_breaks_iff.mpr hescapes)
  · cases hu : h.url ask with
    | error e => exact absurd (.url hu) hescapes
    | ok u =>
        cases hh : u.plainHost with
        | error e => exact absurd (.host hu hh) hescapes
        | ok host =>
            have hc : h.closed = false := Bool.eq_false_iff.mpr fun hc => hescapes (.closed hc)
            rcases exists_delivers_or_breaks with ⟨d, hd⟩ | hbreaks
            · exact .inl ⟨d, .intro hu hh hc hd⟩
            · refine .inr ?_
              rw [Http.exchange_eq hu hh hc]
              exact hbreaks

/-- A breakdown is received. -/
theorem receives_breakdown {host : List Char} {message : String} (hu : h.url ask = .ok u)
    (hh : u.plainHost = .ok host) (hc : h.closed = false)
    (ho : h.outcomes.head? = some (.broken message)) : h.Receives ask (.breakdown message) := by
  refine .intro hu hh hc ?_
  rw [ho]
  exact .broken

/-- An answer is received as it is if it is neither coded nor points elsewhere. -/
theorem receives_answer {host : List Char} (hu : h.url ask = .ok u) (hh : u.plainHost = .ok host)
    (hc : h.closed = false) (hs : hasScheme u.text) (hplain : Plain headers)
    (ho : h.outcomes.head? = some (.answered status headers body)) :
    h.Receives ask (.answer status headers body) := by
  have hp : Received ask.context headers body body := by
    refine ⟨hplain.ascii, ?_⟩
    rw [plainBody, hplain.uncoded]
    rfl
  have hr : checkRedirect ask.context u status headers = .ok () := by
    rw [checkRedirect, hplain.final]
  refine .intro hu hh hc ?_
  rw [ho]
  exact .answer hp hs hr

/-! ## The classification -/

variable {α : Type} {decode : Json → Except DecodeError α} {r : Except Failure α}

/-- What a delivery comes to is nothing else. -/
theorem Classified.decoded_eq (hr : Classified context decode d r) :
    decoded decode (d.read context) = r := by
  cases hr with
  | breakdown => rfl
  | refusal hs ht =>
      rw [Delivery.read, if_neg hs, ht]
      simp only [decoded, transportFailure, String.append_assoc]
      rfl
  | notJson hj =>
      rw [Delivery.read, if_pos rfl, hj]
      rfl
  | shape hj hv =>
      rw [Delivery.read, if_pos rfl, hj]
      simp only [decoded, mapError_ok, Except.bind, hv]
      rfl
  | value hj hv =>
      rw [Delivery.read, if_pos rfl, hj]
      simp only [decoded, mapError_ok, Except.bind, hv]

/-- Each delivery comes to something. -/
theorem exists_classified (hl : d.Legible) : ∃ r, Classified context decode d r := by
  cases hl with
  | breakdown => exact ⟨_, .breakdown⟩
  | text hs ht => exact ⟨_, .refusal hs ht⟩
  | @json headers content hj =>
      cases hbody : jsonOfBody content with
      | error fault =>
          cases fault with
          | malformed => exact ⟨_, .notJson hbody⟩
          | tooDeep holder => exact absurd hbody (hj holder)
      | ok v =>
          cases hv : decode v with
          | error e => exact ⟨_, .shape hbody hv⟩
          | ok a => exact ⟨_, .value hbody hv⟩

theorem decoded_eq_iff_classified (hl : d.Legible) :
    decoded decode (d.read context) = r ↔ Classified context decode d r := by
  refine ⟨?_, Classified.decoded_eq⟩
  rintro rfl
  obtain ⟨r, hr⟩ := exists_classified hl
  exact hr.decoded_eq ▸ hr

/-- What is received comes to a decoding error exactly if it is an answer with status 200 whose content is
no JSON of the expected shape. -/
theorem Classified.isDecode_iff (hr : Classified context decode (.answer status headers content) r) :
    (∃ e, r = .error (.library e) ∧ e.kind = .decode) ↔
      status = 200 ∧ ∀ v a, jsonOfBody content = .ok v → decode v ≠ .ok a := by
  cases hr with
  | refusal hs ht =>
      refine iff_of_false ?_ fun h => hs h.1
      rintro ⟨_, ⟨⟩, ⟨⟩⟩
  | notJson hj =>
      refine iff_of_true ⟨_, rfl, rfl⟩ ⟨rfl, fun v a hv => ?_⟩
      cases hj.symm.trans hv
  | shape hj hv =>
      refine iff_of_true ⟨_, rfl, rfl⟩ ⟨rfl, fun v a hj' hv' => ?_⟩
      obtain rfl := Except.ok.inj (hj.symm.trans hj')
      cases hv.symm.trans hv'
  | value hj hv =>
      refine iff_of_false ?_ fun h => h.2 _ _ hj hv
      rintro ⟨_, ⟨⟩, _⟩

/-- The answers that a decision gives, as they are handed on. -/
def answersOfJson (v : Json) : Except DecodeError Answers :=
  (Decisions.ofJson v).map fun ds => ds.map fun (k, v) => (k, v.toJson)

theorem decide_eq {subject : String} {groups : Groups} :
    (h.decide subject groups).1 = decoded answersOfJson (h.exchange (.decision subject groups)).1 := by
  show (decoded Decisions.ofJson (h.exchange (.decision subject groups)).1).map _ = _
  cases (h.exchange (.decision subject groups)).1 with
  | error failure => rfl
  | ok v =>
      simp only [decoded, answersOfJson, Except.bind]
      cases Decisions.ofJson v <;> rfl

/-- **Outcomes are classified completely.**  Whatever a listing or a decision receives, it comes to what
`Classified` says, and to nothing else; to a decoding error exactly if an answer with status 200 is no JSON
of the expected shape.

Breakdowns are received, and so are answers with any status and any body, if they are neither coded nor
point elsewhere.  A request that receives nothing ends in a failure that is not the library's own. -/
theorem outcomes_are_classified (h : Http) :
    (∀ d r, h.Receives .listing d → d.Legible →
      (h.fetch.1 = r ↔ Classified "Unable to fetch feature flags" Flag.listOfJson d r)) ∧
    (∀ subject groups d r, h.Receives (.decision subject groups) d → d.Legible →
      ((h.decide subject groups).1 = r ↔ Classified "Error calling /decide/" answersOfJson d r)) ∧
    (∀ {α : Type} context (decode : Json → Except DecodeError α) status headers content r,
      Classified context decode (.answer status headers content) r →
      ((∃ e, r = .error (.library e) ∧ e.kind = .decode) ↔
        status = 200 ∧ ∀ v a, jsonOfBody content = .ok v → decode v ≠ .ok a)) ∧
    (∀ ask u host, h.url ask = .ok u → u.plainHost = .ok host → h.closed = false →
      (∀ message, h.outcomes.head? = some (.broken message) → h.Receives ask (.breakdown message)) ∧
      ∀ status headers body, h.outcomes.head? = some (.answered status headers body) →
        hasScheme u.text → Plain headers → h.Receives ask (.answer status headers body)) ∧
    ∀ ask, (∃ d, h.Receives ask d) ∨ Breaks (h.exchange ask).1 := by
  refine ⟨?_, ?_, ?_, ?_, ?_⟩
  · intro d r hd hl
    show decoded Flag.listOfJson (h.exchange .listing).1 = r ↔ _
    rw [hd.exchange_eq]
    exact decoded_eq_iff_classified hl
  · intro subject groups d r hd hl
    rw [decide_eq, hd.exchange_eq]
    exact decoded_eq_iff_classified hl
  · intro α context decode status headers content r hr
    exact hr.isDecode_iff
  · intro ask u host hu hh hc
    refine ⟨fun message ho => receives_breakdown hu hh hc ho, ?_⟩
    intro status headers body ho hs hplain
    exact receives_answer hu hh hc hs hplain ho
  · intro ask
    exact exists_receives_or_breaks

end

section

open Client (flagsTestService flagsTestUrl flagsTestUrl_authority url_listing url_decision)

/-- A listing without flags. -/
def emptyListing : List UInt8 := Utf8.encode "\x7b\"results\": []\x7d"

/-- With status 404 a listing is refused though it could be read, and with status 200 a decision without a
body is no JSON. -/
theorem missing_listing_is_refused :
    (∃ v, jsonOfBody emptyListing = .ok v ∧ Flag.listOfJson v = .ok []) ∧
    (flagsTestService.expect [.answered 404 [] emptyListing]).fetch.1 = .error (.library (.transport
      "Unable to fetch feature flags: HTTP 404: \x7b\"results\": []\x7d" (some 404))) ∧
    ((flagsTestService.expect [.answered 200 [] []]).decide "user" []).1 =
      .error (.library (DecodeError.notJson "Error calling /decide/").report) := by
  have hlisting : (flagsTestUrl "/api/feature_flag/" (some "token=phc")).text =
      "https://flags.test/api/feature_flag/?token=phc" := by
    simp only [Url.text, flagsTestUrl_authority]
    decide +kernel
  have hdecision : (flagsTestUrl "/decide/" (some "v=2")).text = "https://flags.test/decide/?v=2" := by
    simp only [Url.text, flagsTestUrl_authority]
    decide +kernel
  have htext : bodyText [] emptyListing = .ok "\x7b\"results\": []\x7d" :=
    eq_ok_of_toOption (by decide +kernel)
  have hplain : Plain [] := ⟨rfl, rfl, rfl⟩
  have hread : ((jsonOfBody emptyListing).toOption.bind fun v => (Flag.listOfJson v).toOption).map
      List.length = some 0 := by decide +kernel
  obtain ⟨flags, hb, hlength⟩ := Option.map_eq_some_iff.mp hread
  obtain ⟨v, hv, hflags⟩ := Option.bind_eq_some_iff.mp hb
  obtain rfl := List.length_eq_zero_iff.mp hlength
  refine ⟨⟨v, eq_ok_of_toOption hv, eq_ok_of_toOption hflags⟩, ?_, ?_⟩
  · obtain ⟨hfetch, -, -, hreceived, -⟩ :=
      outcomes_are_classified (flagsTestService.expect [.answered 404 [] emptyListing])
    have hd := (hreceived .listing _ _ url_listing rfl rfl).2 404 [] emptyListing rfl
      (by rw [hlisting]; decide +kernel) hplain
    exact (hfetch _ _ hd (Delivery.legible_of_untyped (by decide) rfl)).mpr (.refusal (by decide) htext)
  · obtain ⟨-, hdecide, -, hreceived, -⟩ :=
      outcomes_are_classified (flagsTestService.expect [.answered 200 [] []])
    have hd := (hreceived (.decision "user" []) _ _ (url_decision rfl) rfl rfl).2 200 [] [] rfl
      (by rw [hdecision]; decide +kernel) hplain
    have hj : jsonOfBody [] = .error .malformed := rfl
    exact (hdecide "user" [] _ _ hd (.json fun holder => by simp [hj])).mpr (.notJson hj)

end

end Http

end FeatureFlags
