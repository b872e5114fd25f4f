import FeatureFlags.Service.Http

/-!
# `Proofs.Service.Escape` — which requests end in a failure that is not the library's own

A broken exchange, a status other than 200 and a body of the wrong shape are reported as errors of the
library.  `Http.Escapes` lists what is left: the request has no resource, the service is closed, the
exchange failed in a way of its own, or the answer cannot be read (`Http.Unreadable`).

`exchange_breaks_iff` says that a request ends in a failure that is not the library's own in these cases,
and in no others.  Decoding adds none, so that the same holds of decisions (`decide_breaks_iff`).
-/

namespace FeatureFlags

/-! ## Failures and values -/

/-- Whether a failure is not the library's own. -/
def Failure.isForeign : Failure → Bool
  | .library _ => false
  | .foreign _ => true

/-- Whether an operation ends in a failure that is not the library's own. -/
def Breaks {α : Type} (r : Except Failure α) : Prop := ∃ e, r = .error e ∧ e.isForeign

section

variable {α β ε : Type} {r : Except Failure α} {f : α → Except Failure β}

@[simp] theorem breaks_ok {a : α} : ¬ Breaks (.ok a : Except Failure α) := by
  rintro ⟨e, ⟨⟩, _⟩

@[simp] theorem breaks_error {e : Failure} : Breaks (.error e : Except Failure α) ↔ e.isForeign := by
  simp [Breaks]

/-- A sequence breaks if its first part does, or its second part after the first. -/
theorem breaks_bind : Breaks (r >>= f) ↔ Breaks r ∨ ∃ a, r = .ok a ∧ Breaks (f a) := by
  cases r with
  | ok a => simp [Bind.bind, Except.bind]
  | error e => simp [Bind.bind, Except.bind]

theorem breaks_map {g : α → β} : Breaks (r.map g) ↔ Breaks r := by
  cases r <;> simp [Except.map]

@[simp] theorem mapError_ok {a : α} {g : ε → Failure} :
    (.ok a : Except ε α).mapError g = .ok a := rfl

@[simp] theorem mapError_error {e : ε} {g : ε → Failure} :
    (.error e : Except ε α).mapError g = .error (g e) := rfl

theorem breaks_mapError {x : Except ε α} {g : ε → Failure} :
    Breaks (x.mapError g) ↔ ∃ e, x = .error e ∧ (g e).isForeign := by
  cases x <;> simp

end

namespace Http

/-! ## Reading an answer -/

variable {context : String} {u : Url} {status : Int} {headers : List (String × String)}
  {body plain : List UInt8}

theorem headerFailure?_isForeign {value : String} {failure : Failure}
    (h : headerFailure? value = some failure) : failure.isForeign := by
  obtain ⟨_, _, rfl⟩ := Option.map_eq_some_iff.mp h
  rfl

theorem checkHeaders_breaks_iff : Breaks (checkHeaders headers) ↔ checkHeaders headers ≠ .ok () := by
  unfold checkHeaders
  split
  · next failure h =>
      obtain ⟨⟨k, v⟩, _, hf⟩ := List.exists_of_findSome?_eq_some h
      have hforeign : failure.isForeign := by
        cases hk : headerFailure? k with
        | some e =>
            obtain rfl : e = failure := by simpa [hk] using hf
            exact headerFailure?_isForeign hk
        | none => exact headerFailure?_isForeign (by simpa [hk] using hf)
      simpa using hforeign
  · simp

theorem plainBody_not_breaks : ¬ Breaks (plainBody context headers body) := by
  unfold plainBody
  rw [breaks_mapError]
  rintro ⟨e, _, ⟨⟩⟩

theorem checkScheme_breaks_iff : Breaks (checkScheme u) ↔ hasScheme u.text = false := by
  unfold checkScheme
  cases hasScheme u.text <;> simp [Failure.isForeign]

theorem redirectFailure_isForeign_iff {fault : Redirect.Fault} :
    (redirectFailure context fault).isForeign ↔ ∀ e, fault ≠ .unreadable e := by
  cases fault <;>
    simp [redirectFailure, transportFailure, urlFailure, domainFailure, Failure.isForeign]

theorem checkRedirect_breaks_iff : Breaks (checkRedirect context u status headers) ↔
    ∃ location fault, header? "location" headers = some location ∧ Redirect.statuses.contains status ∧
      Redirect.place u location = .error fault ∧ ∀ e, fault ≠ .unreadable e := by
  unfold checkRedirect
  cases hl : header? "location" headers with
  | none => simp
  | some location =>
      by_cases hs : Redirect.statuses.contains status
      · simp only [hs, if_true, breaks_map, breaks_mapError, redirectFailure_isForeign_iff]
        exact ⟨fun ⟨fault, hf⟩ => ⟨location, fault, rfl, trivial, hf⟩,
          fun ⟨_, fault, hl, _, hf⟩ => ⟨fault, Option.some.inj hl ▸ hf⟩⟩
      · simp only [hs, breaks_ok, false_and, and_false, exists_false, Bool.false_eq_true, if_false]

theorem checkRedirect_of_ok : checkRedirect context u 200 headers = .ok () := by
  unfold checkRedirect
  split <;> rfl

theorem jsonOfBody_breaks_iff : Breaks ((jsonOfBody body).mapError (jsonFailure context)) ↔
    ∃ holder, jsonOfBody body = .error (.tooDeep holder) := by
  rw [breaks_mapError]
  constructor
  · rintro ⟨fault, hf, hfault⟩
    cases fault with
    | malformed => cases hfault
    | tooDeep holder => exact ⟨holder, hf⟩
  · rintro ⟨holder, hj⟩
    exact ⟨_, hj, rfl⟩

/-- A text is refused only for what is not the library's own. -/
theorem isForeign_of_bodyText {failure : Failure} (h : bodyText headers body = .error failure) :
    failure.isForeign := by
  have ofDecoding (charset : Option Charset)
      (h : ((charset.getD .utf8).decodeLossy body).mapError charsetFailure = .error failure) :
      failure.isForeign := by
    cases hd : (charset.getD .utf8).decodeLossy body with
    | ok text => simp [hd] at h
    | error e =>
        obtain rfl : charsetFailure e = failure := by simpa [hd] using h
        rfl
  unfold bodyText at h
  split at h
  · cases h
  · cases hh : header? "content-type" headers with
    | none =>
        simp only [hh] at h
        exact ofDecoding none h
    | some type =>
        cases hc : ContentType.charsetOf? type with
        | ok charset =>
            simp only [hh, hc] at h
            exact ofDecoding charset h
        | error e =>
            simp only [hh, hc] at h
            obtain rfl : contentTypeFailure e = failure := Except.error.inj h
            rfl

/-- The headers of an answer are in order, and its body without its codings is the given one. -/
def Received (context : String) (headers : List (String × String)) (body plain : List UInt8) : Prop :=
  checkHeaders headers = .ok () ∧ plainBody context headers body = .ok plain

/-- **Which answers cannot be read.**  A header is not ASCII; the text of the resource does not begin
with a scheme; the answer points elsewhere, to what can be read but is no place; a listing or a decision
is nested too deeply; or the text of another answer is not in its charset. -/
inductive Unreadable (context : String) (u : Url) (status : Int) (headers : List (String × String))
    (body : List UInt8) : Prop where
  | headers (h : checkHeaders headers ≠ .ok ())
  | scheme {plain : List UInt8} (hp : Received context headers body plain)
      (hs : hasScheme u.text = false)
  | redirect {plain : List UInt8} {location : String} {fault : Redirect.Fault}
      (hp : Received context headers body plain) (hl : header? "location" headers = some location)
      (hs : Redirect.statuses.contains status) (hf : Redirect.place u location = .error fault)
      (hr : ∀ e, fault ≠ .unreadable e)
  | depth {plain : List UInt8} {holder : Json.Reader.Holder} (hp : Received context headers body plain)
      (hs : status = 200) (hj : jsonOfBody plain = .error (.tooDeep holder))
  | text {plain : List UInt8} {failure : Failure} (hp : Received context headers body plain)
      (hr : checkRedirect context u status headers = .ok ()) (hs : status ≠ 200)
      (ht : bodyText headers plain = .error failure)

/-- What reading an answer leads to once its body has been received. -/
theorem read_eq_of_received (hp : Received context headers body plain) :
    read context u status headers body = (do
      checkScheme u
      checkRedirect context u status headers
      if status = 200 then (jsonOfBody plain).mapError (jsonFailure context)
      else
        let text ← bodyText headers plain
        throw (transportFailure context ("HTTP " ++ toString status ++ ": " ++ text) (some status))) := by
  obtain ⟨hh, hb⟩ := hp
  simp only [read, hh, hb]
  rfl

/-- What breaks behind the check of the scheme breaks the reading of an answer: either it is come to, or
the scheme is missing. -/
theorem read_breaks_of_received (hp : Received context headers body plain)
    (h : Breaks (do
      checkRedirect context u status headers
      if status = 200 then (jsonOfBody plain).mapError (jsonFailure context)
      else
        let text ← bodyText headers plain
        throw (transportFailure context ("HTTP " ++ toString status ++ ": " ++ text) (some status)))) :
    Breaks (read context u status headers body) := by
  rw [read_eq_of_received hp, breaks_bind]
  cases hs : checkScheme u with
  | ok _ => exact .inr ⟨(), rfl, h⟩
  | error e =>
      refine .inl (hs ▸ checkScheme_breaks_iff.mpr ?_)
      unfold checkScheme at hs
      split at hs
      · cases hs
      · exact Bool.eq_false_iff.mpr ‹_›

/-- **An answer breaks if, and only if, it cannot be read.** -/
theorem read_breaks_iff : Breaks (read context u status headers body) ↔
    Unreadable context u status headers body := by
  constructor
  · intro h
    by_cases hh : checkHeaders headers = .ok ()
    · cases hb : plainBody context headers body with
      | error e =>
          have hbreaks : Breaks (plainBody context headers body) := by
            rw [hb]
            simpa [read, hh, hb, Bind.bind, Except.bind] using h
          exact absurd hbreaks plainBody_not_breaks
      | ok plain =>
          have hp : Received context headers body plain := ⟨hh, hb⟩
          rw [read_eq_of_received hp, breaks_bind] at h
          rcases h with hs | ⟨_, _, h⟩
          · exact .scheme hp (checkScheme_breaks_iff.mp hs)
          rw [breaks_bind] at h
          rcases h with hr | ⟨_, hr, h⟩
          · obtain ⟨location, fault, hl, hs, hf, hne⟩ := checkRedirect_breaks_iff.mp hr
            exact .redirect hp hl hs hf hne
          split at h
          · obtain ⟨holder, hj⟩ := jsonOfBody_breaks_iff.mp h
            exact .depth hp ‹_› hj
          · rw [breaks_bind] at h
            rcases h with ⟨e, he, _⟩ | ⟨_, _, h⟩
            · exact .text hp hr ‹_› he
            · cases breaks_error.mp h
    · exact .headers hh
  · intro h
    cases h with
    | headers hh => exact breaks_bind.mpr (.inl (checkHeaders_breaks_iff.mpr hh))
    | scheme hp hs =>
        rw [read_eq_of_received hp]
        exact breaks_bind.mpr (.inl (checkScheme_breaks_iff.mpr hs))
    | redirect hp hl hs hf hr =>
        refine read_breaks_of_received hp (breaks_bind.mpr (.inl ?_))
        exact checkRedirect_breaks_iff.mpr ⟨_, _, hl, hs, hf, hr⟩
    | depth hp hs hj =>
        subst hs
        refine read_breaks_of_received hp (breaks_bind.mpr (.inr ⟨(), checkRedirect_of_ok, ?_⟩))
        exact jsonOfBody_breaks_iff.mpr ⟨_, hj⟩
    | text hp hr hs ht =>
        refine read_breaks_of_received hp (breaks_bind.mpr (.inr ⟨(), hr, ?_⟩))
        rw [if_neg hs]
        exact breaks_bind.mpr (.inl ⟨_, ht, isForeign_of_bodyText ht⟩)

/-! ## Requests -/

variable {h : Http} {ask : Ask}

/-- **When a request escapes.**  It has no resource, or one whose host is no domain name; the service is
closed; or the exchange fails in a way of its own, or with an answer that cannot be read. -/
inductive Escapes (h : Http) (ask : Ask) : Prop where
  | url {e : UrlError} (hu : h.url ask = .error e)
  | host {u : Url} {e : Domain.Fault} (hu : h.url ask = .ok u) (hh : u.plainHost = .error e)
  | closed (hc : h.closed)
  | foreign {e : ForeignError} (ho : h.outcomes.head? = some (.foreign e))
  | unreadable {u : Url} {status : Int} {headers : List (String × String)} {body : List UInt8}
      (hu : h.url ask = .ok u) (ho : h.outcomes.head? = some (.answered status headers body))
      (hr : Unreadable ask.context u status headers body)

/-- The next outcome breaks if it is a failure of its own, or an answer that cannot be read. -/
theorem outcome_breaks_iff : Breaks ((h.outcomes.head?.getD (.broken "no response")).read context u) ↔
    (∃ e, h.outcomes.head? = some (.foreign e)) ∨
      ∃ status headers body, h.outcomes.head? = some (.answered status headers body) ∧
        Unreadable context u status headers body := by
  cases h.outcomes.head? with
  | none => simp [Outcome.read, transportFailure, Failure.isForeign]
  | some outcome =>
      cases outcome with
      | answered status headers body =>
          refine read_breaks_iff.trans ⟨fun hr => .inr ⟨status, headers, body, rfl, hr⟩, ?_⟩
          rintro (⟨_, ⟨⟩⟩ | ⟨_, _, _, ⟨⟩, hr⟩)
          exact hr
      | broken message => simp [Outcome.read, transportFailure, Failure.isForeign]
      | foreign e => simp [Outcome.read, Failure.isForeign]

/-- What an exchange comes to when it can take place. -/
theorem exchange_eq {cs : List Char} (hu : h.url ask = .ok u) (hh : u.plainHost = .ok cs)
    (hc : h.closed = false) : h.exchange ask =
      ((h.outcomes.head?.getD (.broken "no response")).read ask.context u,
        { h with outcomes := h.outcomes.drop 1, sent := h.sent ++ [h.request ask u] }) := by
  simp [exchange, hu, hh, hc]

/-- **A request breaks if, and only if, it escapes.** -/
theorem exchange_breaks_iff : Breaks (h.exchange ask).1 ↔ h.Escapes ask := by
  cases hu : h.url ask with
  | error e =>
      refine iff_of_true ?_ (.url hu)
      simp [exchange, hu, urlFailure, Failure.isForeign]
  | ok u =>
      cases hh : u.plainHost with
      | error e =>
          refine iff_of_true ?_ (.host hu hh)
          simp [exchange, hu, hh, domainFailure, Failure.isForeign]
      | ok cs =>
          cases hc : h.closed with
          | true =>
              refine iff_of_true ?_ (.closed hc)
              simp [exchange, hu, hh, hc, closedFailure, Failure.isForeign]
          | false =>
              rw [exchange_eq hu hh hc, outcome_breaks_iff]
              constructor
              · rintro (⟨e, ho⟩ | ⟨status, headers, body, ho, hr⟩)
                · exact .foreign ho
                · exact .unreadable hu ho hr
              · rintro (⟨hu'⟩ | ⟨hu', hh'⟩ | ⟨hc'⟩ | ⟨ho⟩ | ⟨hu', ho, hr⟩)
                · cases hu.symm.trans hu'
                · cases hu.symm.trans hu'
                  cases hh.symm.trans hh'
                · cases hc.symm.trans hc'
                · exact .inl ⟨_, ho⟩
                · cases hu.symm.trans hu'
                  exact .inr ⟨_, _, _, ho, hr⟩

/-! ## The operations -/

/-- Decoding turns what it refuses into errors of the library. -/
theorem decoded_breaks_iff {α : Type} {decode : Json → Except DecodeError α}
    {answer : Except Failure Json} : Breaks (decoded decode answer) ↔ Breaks answer := by
  refine breaks_bind.trans (or_iff_left ?_)
  rintro ⟨v, _, h⟩
  obtain ⟨e, _, he⟩ := breaks_mapError.mp h
  cases e <;> cases he

theorem decide_breaks_iff {subject : String} {groups : Groups} :
    Breaks (h.decide subject groups).1 ↔ h.Escapes (.decision subject groups) :=
  (breaks_map.trans decoded_breaks_iff).trans exchange_breaks_iff

end Http

end FeatureFlags
