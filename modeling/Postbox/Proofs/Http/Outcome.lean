import Postbox.Proofs.Http.Bodies
import Postbox.Proofs.Http.Headers
import Postbox.Proofs.Http.Heads
import Postbox.Proofs.Http.SingleExchange
import Postbox.Proofs.Text.Charset

namespace Postbox.Http

/-!
# What comes of a submission

Whatever the other side does, a submission that returns ends in one of four ways, and which one is
decided by the final answer.  If it was received completely, its status and its text decide; if not,
the transport failed, even if the status was known by then, or a part of the body would have been a
token.

* `Reaches`, `Carries`, `Received` — a final answer is reached, and received completely.
* `Unanswered` — the other ways in which an exchange ends.
* `exchangeFrom_cases` — how one answer is taken, and `reaches_or_unanswered` for a whole exchange.
* `received_or_unanswered`, `conclusionOf_of_received` — the same for the exchange of a submission.
* `ComesTo`, `comesTo_submit` — what may come of a submission, by what was received.
* `Settled`, `submit_settled` — a submission is settled by what was received completely.
-/

/-! ### The final answer -/

section

variable (network : Network) (settings : Settings) (proxies : Url → Option Url)

/-- The exchange that this request goes on with comes to the head of a final answer, with these
    bytes behind it, by following so many answers at most. -/
inductive Reaches (ending : Ending) (head : Head) (rest : List UInt8) :
    Nat → List Outgoing → Outgoing → Prop
  | final {limit : Nat} {sent received : List Outgoing} {out : Outgoing} {bytes : List UInt8}
      (hd : deliver network settings sent out = (received, .inl (.stream bytes ending)))
      (hh : FinalHead bytes head rest) (hr : redirect? proxies out head = none) :
      Reaches ending head rest limit sent out
  | follows {limit : Nat} {sent received : List Outgoing} {out next : Outgoing}
      {bytes rest' : List UInt8} {ending' : Ending} {head' : Head}
      (hd : deliver network settings sent out = (received, .inl (.stream bytes ending')))
      (hh : FinalHead bytes head' rest') (hr : redirect? proxies out head' = some next)
      (hx : next.url.isHttp = true)
      (h : Reaches ending head rest limit received next) :
      Reaches ending head rest (limit + 1) sent out

end

/-- The form goes out over the connection, and the exchange comes to the head of a final answer,
    with these bytes behind it. -/
structure Comes (network : Network) (settings : Settings) (endpoint : String) (form : Form)
    (ending : Ending) (head : Head) (rest : List UInt8) : Prop where
  reached : ∃ connection, Connection.ofEndpoint settings endpoint = .ok connection
    ∧ (withoutUser connection.url).isRequestable = true
    ∧ Reaches network connection.settings (proxyFor network connection) ending head rest
        redirectLimit [] (firstOf network connection form)

/-- What follows a head is the complete body of this answer: it ends where the head announces, and
    its text is the one that its bytes stand for in the charset that the head says. -/
inductive Carries (ending : Ending) (head : Head) (rest : List UInt8) : Response → Prop
  | mk {framing : Framing} {body left : List UInt8} {charset : Text.Charset} {text : List Char}
      (hf : Framing.Announced head framing) (hb : framing.Completes ending rest body left)
      (hc : head.IsIn charset) (ht : Text.Charset.Decodes charset body text) :
      Carries ending head rest { status := head.status, body := String.ofList text }

/-- The final answer to the form was received completely, and this is it. -/
def Received (network : Network) (settings : Settings) (endpoint : String) (form : Form)
    (response : Response) : Prop :=
  ∃ ending head rest, Comes network settings endpoint form ending head rest
    ∧ Carries ending head rest response

/-! ### The end of an exchange -/

/-- An exchange ends without a complete answer: it fails, and so does the transport, or it never
    ends. -/
inductive Unanswered : Conclusion → Prop
  | failed (reason : String) : Unanswered (.failed (.transport reason))
  | endless : Unanswered .endless

section

variable {network : Network} {settings : Settings} {proxies : Url → Option Url} {limit : Nat}
  {sent : List Outgoing} {out : Outgoing} {ending : Ending} {head : Head} {rest : List UInt8}
  {url : Url} {response : Response}

/-- Where bytes are missing, there is no answer. -/
theorem unanswered_stalled (settings : Settings) (ending : Ending) (url : Url) :
    Unanswered (stalled settings ending url) := by
  unfold stalled
  split
  · exact .failed _
  · exact .endless

/-- An exchange ends with the answer that was received completely. -/
theorem concluded_of_carries (h : Carries ending head rest response) :
    concluded settings ending url head rest = .complete response := by
  cases h with
  | mk hf hb hc ht =>
    have htext := Text.Charset.decode_eq_iff.mpr ht
    unfold concluded
    simp only [Framing.ofHead_eq_some_iff.mpr hf, Framing.read_eq_done_iff.mpr hb,
      Head.charset_eq_iff.mpr hc, htext]

/-- A final answer is complete, or not taken for an answer. -/
theorem carries_or_unanswered (settings : Settings) (ending : Ending) (url : Url) (head : Head)
    (rest : List UInt8) :
    (∃ response, Carries ending head rest response)
      ∨ Unanswered (concluded settings ending url head rest) := by
  unfold concluded
  split
  · exact .inr (.failed _)
  · next framing hf =>
    split
    · next hread =>
      have hcharset := Head.charset_eq_iff.mp (Eq.refl head.charset)
      exact .inl ⟨_, .mk (Framing.ofHead_eq_some_iff.mp hf) (Framing.read_eq_done_iff.mp hread)
        hcharset (Text.Charset.decode_eq_iff.mp rfl)⟩
    · exact .inr (unanswered_stalled settings ending url)
    · exact .inr (.failed _)

/-- An exchange that ends before its request is answered ends without an answer. -/
theorem unanswered_deliver {received : List Outgoing} {conclusion : Conclusion}
    (h : deliver network settings sent out = (received, .inr conclusion)) :
    Unanswered conclusion := by
  unfold deliver at h
  split at h
  · cases h
  · split at h
    · cases h
    · split at h
      · cases h
      · split at h
        · cases h
          exact unanswered_stalled settings _ out.url
        · cases h
          exact .failed _

/-- **How one answer is taken**: an exchange ends without one, or it is the final one, or another
    request follows. -/
theorem exchangeFrom_cases (network : Network) (settings : Settings) (proxies : Url → Option Url)
    (limit : Nat) (sent : List Outgoing) (out : Outgoing) :
    Unanswered (exchangeFrom network settings proxies limit sent out).2
      ∨ ∃ received bytes ending head rest,
        deliver network settings sent out = (received, .inl (.stream bytes ending))
          ∧ FinalHead bytes head rest
          ∧ (redirect? proxies out head = none
            ∨ ∃ others next, limit = others + 1 ∧ redirect? proxies out head = some next
              ∧ next.url.isHttp = true) := by
  unfold exchangeFrom
  -- The delivery, then the head, then where the head refers to.
  split
  · next hd => exact .inl (unanswered_deliver hd)
  · exact .inl (.failed _)
  · next received bytes ending hd =>
    split
    · exact .inl (.failed _)
    · exact .inl (unanswered_stalled settings ending out.url)
    · next head rest hh =>
      have hfinal := (finalHead_eq_done_iff (Nat.lt_succ_self _)).mp hh
      split
      · next hr => exact .inr ⟨received, bytes, ending, head, rest, hd, hfinal, .inl hr⟩
      · exact .inl (.failed _)
      · next next others hr =>
        split
        · next hx =>
          exact .inr ⟨received, bytes, ending, head, rest, hd, hfinal,
            .inr ⟨others, next, rfl, hr, hx⟩⟩
        · exact .inl (.failed _)

/-- An exchange that comes to a final answer ends with it. -/
theorem Reaches.concluded
    (h : Reaches network settings proxies ending head rest limit sent out) :
    ∃ url, (exchangeFrom network settings proxies limit sent out).2
      = concluded settings ending url head rest := by
  induction h with
  | @final limit sent received out bytes hd hh hr =>
    rw [exchangeFrom_of_final hd hh.eq_done hr]
    exact ⟨out.url, rfl⟩
  | @follows limit sent received out next bytes rest' ending' head' hd hh hr hx h ih =>
    rw [exchangeFrom_of_redirect hd hh.eq_done hr, if_pos hx]
    exact ih

/-- **An exchange comes to a final answer, or ends without one.** -/
theorem reaches_or_unanswered (network : Network) (settings : Settings)
    (proxies : Url → Option Url) (limit : Nat) (sent : List Outgoing) (out : Outgoing) :
    (∃ ending head rest, Reaches network settings proxies ending head rest limit sent out)
      ∨ Unanswered (exchangeFrom network settings proxies limit sent out).2 := by
  -- On the number of answers that may still be followed.
  induction limit generalizing sent out with
  | zero =>
    rcases exchangeFrom_cases network settings proxies 0 sent out with
      h | ⟨received, bytes, ending, head, rest, hd, hh, hr | ⟨others, next, hlimit, hr, hx⟩⟩
    · exact .inr h
    · exact .inl ⟨ending, head, rest, .final hd hh hr⟩
    · cases hlimit
  | succ limit ih =>
    rcases exchangeFrom_cases network settings proxies (limit + 1) sent out with
      h | ⟨received, bytes, ending, head, rest, hd, hh, hr | ⟨others, next, hlimit, hr, hx⟩⟩
    · exact .inr h
    · exact .inl ⟨ending, head, rest, .final hd hh hr⟩
    · cases hlimit
      rcases ih received next with ⟨ending', head', rest', h⟩ | h
      · exact .inl ⟨ending', head', rest', .follows hd hh hr hx h⟩
      · -- What follows ends without an answer, and so does the exchange.
        refine .inr ?_
        rw [exchangeFrom_of_redirect hd hh.eq_done hr, if_pos hx]
        exact h

end

/-! ### The end of a submission -/

section

variable {network : Network} {settings : Settings} {endpoint : String} {form : Form}
  {ending : Ending} {head : Head} {rest : List UInt8} {response : Response}

/-- How the exchange of a submission ends. -/
def conclusionOf (network : Network) (settings : Settings) (endpoint : String) (form : Form) :
    Conclusion :=
  (exchangeWith network settings endpoint (.ofForm form.body)).2

/-- What comes of a submission is what its exchange ends with. -/
theorem snd_submit :
    (submit network settings endpoint form).2
      = (conclusionOf network settings endpoint form).result? := by
  cases ho : Connection.ofEndpoint settings endpoint with
  | ok connection =>
    rw [submit_eq ho, conclusionOf, exchangeWith, ho]
  | error fault =>
    have hopens : opens settings endpoint = .fails fault.failure := by rw [opens, ho]
    have hx : exchangeWith network settings endpoint (.ofForm form.body)
        = ([], .failed fault.failure) := by rw [exchangeWith, ho]
    simp only [submit, transport?, conclusionOf, hx, Conclusion.turn?, Conclusion.result?,
      Option.map_some, Submission.send, hopens]

/-- With an open connection, the exchange is that of its first request. -/
theorem conclusionOf_of_ok {connection : Connection}
    (ho : Connection.ofEndpoint settings endpoint = .ok connection)
    (hn : (withoutUser connection.url).isRequestable = true) :
    conclusionOf network settings endpoint form
      = (exchangeFrom network connection.settings (proxyFor network connection) redirectLimit []
          (firstOf network connection form)).2 := by
  rw [conclusionOf, exchangeWith, ho]
  show (exchange network connection (.ofForm form.body)).2 = _
  rw [exchange, if_pos hn]
  rfl

/-- The exchange ends with what follows the head of the final answer. -/
theorem Comes.concluded (h : Comes network settings endpoint form ending head rest) :
    ∃ settings' url, conclusionOf network settings endpoint form
      = concluded settings' ending url head rest := by
  obtain ⟨connection, ho, hn, hr⟩ := h.reached
  obtain ⟨url, hurl⟩ := hr.concluded
  exact ⟨connection.settings, url, by rw [conclusionOf_of_ok ho hn, hurl]⟩

/-- **A complete answer is what the exchange ends with.** -/
theorem conclusionOf_of_received (h : Received network settings endpoint form response) :
    conclusionOf network settings endpoint form = .complete response := by
  obtain ⟨ending, head, rest, hc, hcarries⟩ := h
  obtain ⟨settings', url, hurl⟩ := hc.concluded
  rw [hurl, concluded_of_carries hcarries]

/-- **Without a complete answer, the exchange fails or never ends.** -/
theorem received_or_unanswered (network : Network) (settings : Settings) (endpoint : String)
    (form : Form) :
    (∃ response, Received network settings endpoint form response)
      ∨ Unanswered (conclusionOf network settings endpoint form) := by
  cases ho : Connection.ofEndpoint settings endpoint with
  | error fault =>
    rw [conclusionOf, exchangeWith, ho]
    exact .inr (.failed fault.message)
  | ok connection =>
    -- The address may still hold a character that no request can name.
    by_cases hn : (withoutUser connection.url).isRequestable = true
    · rcases reaches_or_unanswered network connection.settings (proxyFor network connection)
          redirectLimit [] (firstOf network connection form) with ⟨ending, head, rest, hr⟩ | h
      · have hc : Comes network settings endpoint form ending head rest := ⟨connection, ho, hn, hr⟩
        obtain ⟨settings', url, hurl⟩ := hc.concluded
        rw [hurl]
        rcases carries_or_unanswered settings' ending url head rest with ⟨response, h⟩ | h
        · exact .inl ⟨response, ending, head, rest, hc, h⟩
        · exact .inr h
      · rw [conclusionOf_of_ok ho hn]
        exact .inr h
    · rw [conclusionOf, exchangeWith, ho]
      show _ ∨ Unanswered (exchange network connection (.ofForm form.body)).2
      rw [exchange, if_neg hn]
      exact .inr (.failed _)

/-- Nothing was received completely in an exchange that ends without a complete answer. -/
theorem Unanswered.not_received (h : Unanswered (conclusionOf network settings endpoint form)) :
    ¬∃ response, Received network settings endpoint form response := by
  rintro ⟨response, hr⟩
  rw [conclusionOf_of_received hr] at h
  cases h

/-- A body that is cut short was not received completely. -/
theorem Comes.not_received_of_cut (h : Comes network settings endpoint form ending head rest)
    {framing : Framing} (hf : Framing.Announced head framing) (hu : framing ≠ .untilClosed)
    {ending' : Ending} {more body : List UInt8}
    (hb : framing.Completes ending' (rest ++ more) body []) (hm : more ≠ []) :
    ¬∃ response, Received network settings endpoint form response := by
  obtain ⟨settings', url, hurl⟩ := h.concluded
  -- The head announces one end of the body, and it has not come.
  rcases carries_or_unanswered settings' ending url head rest with ⟨response, hcarries⟩ | hun
  · cases hcarries with
    | mk hf' hb' =>
      cases hf.unique hf'
      exact absurd hb' (Framing.not_completes_of_cut hu hb hm)
  · rw [← hurl] at hun
    exact hun.not_received

/-! ### What comes of a submission -/

/-- What may come of a submission, by what was received. -/
inductive ComesTo (network : Network) (settings : Settings) (endpoint : String) (form : Form) :
    Option (Turn Token) → Prop
  | token {response : Response} {token : Token}
      (hr : Received network settings endpoint form response) (hs : response.isSuccess = true)
      (ht : Token.read? response.body = some token) :
      ComesTo network settings endpoint form (some (.gives token))
  | noToken {response : Response} (reason : String)
      (hr : Received network settings endpoint form response) (hs : response.isSuccess = true)
      (ht : Token.read? response.body = none) :
      ComesTo network settings endpoint form (some (.fails (.malformedResponse reason)))
  | status {response : Response} (hr : Received network settings endpoint form response)
      (hs : ¬response.isSuccess = true) :
      ComesTo network settings endpoint form
        (some (.fails (.protocol response.status response.body)))
  | nothing (reason : String)
      (hn : ¬∃ response, Received network settings endpoint form response) :
      ComesTo network settings endpoint form (some (.fails (.transport reason)))
  | endless (hn : ¬∃ response, Received network settings endpoint form response) :
      ComesTo network settings endpoint form none

/-- A complete answer is taken as an answer. -/
theorem snd_submit_of_received (h : Received network settings endpoint form response) :
    (submit network settings endpoint form).2 = some (.ofExcept (Token.ofResponse response)) := by
  rw [snd_submit, conclusionOf_of_received h]
  rfl

/-- **What comes of a submission is one of five things.** -/
theorem comesTo_submit (network : Network) (settings : Settings) (endpoint : String) (form : Form) :
    ComesTo network settings endpoint form (submit network settings endpoint form).2 := by
  rcases received_or_unanswered network settings endpoint form with ⟨response, hr⟩ | hun
  · rw [snd_submit_of_received hr]
    by_cases hs : response.isSuccess = true
    · cases ht : Token.read? response.body with
      | some token =>
        rw [Token.ofResponse_of_some hs ht]
        exact .token hr hs ht
      | none =>
        rw [Token.ofResponse_of_none hs ht]
        exact .noToken _ hr hs ht
    · rw [Token.ofResponse_of_status hs]
      exact .status hr hs
  · have hn := hun.not_received
    rw [snd_submit]
    generalize conclusionOf network settings endpoint form = conclusion at hun
    cases hun with
    | failed reason => exact .nothing reason hn
    | endless => exact .endless hn

/-- What comes of a submission: a complete answer gives its token, or fails for its status or for
    the lack of a token; without a complete answer, the transport fails. -/
structure Settled (network : Network) (settings : Settings) (endpoint : String) (form : Form) :
    Prop where
  gives : ∀ token, (submit network settings endpoint form).2 = some (.gives token)
    ↔ ∃ response, Received network settings endpoint form response
      ∧ (200 ≤ response.status ∧ response.status ≤ 299)
      ∧ Token.read? response.body = some token
  protocol : ∀ status body,
    (submit network settings endpoint form).2 = some (.fails (.protocol status body))
      ↔ Received network settings endpoint form { status, body }
        ∧ ¬(200 ≤ status ∧ status ≤ 299)
  malformed :
    (∃ reason, (submit network settings endpoint form).2
        = some (.fails (.malformedResponse reason)))
      ↔ ∃ response, Received network settings endpoint form response
        ∧ (200 ≤ response.status ∧ response.status ≤ 299)
        ∧ Token.read? response.body = none
  transport :
    (∃ reason, (submit network settings endpoint form).2 = some (.fails (.transport reason)))
      ↔ (submit network settings endpoint form).2 ≠ none
        ∧ ¬∃ response, Received network settings endpoint form response
  /-- A body that is cut short is lost with its status, whatever was received of it. -/
  cut : ∀ {ending head rest framing more body},
    Comes network settings endpoint form ending head rest →
    Framing.Announced head framing → framing ≠ .untilClosed →
    framing.Completes ending (rest ++ more) body [] → more ≠ [] →
    (submit network settings endpoint form).2 ≠ none →
    ∃ reason, (submit network settings endpoint form).2 = some (.fails (.transport reason))

/-- Without a complete answer, the transport fails if the submission returns. -/
theorem exists_transport (hn : ¬∃ response, Received network settings endpoint form response)
    (hreturns : (submit network settings endpoint form).2 ≠ none) :
    ∃ reason, (submit network settings endpoint form).2 = some (.fails (.transport reason)) := by
  have h := comesTo_submit network settings endpoint form
  generalize (submit network settings endpoint form).2 = outcome at h hreturns
  cases h with
  | token hr hs ht => exact absurd ⟨_, hr⟩ hn
  | noToken reason hr hs ht => exact absurd ⟨_, hr⟩ hn
  | status hr hs => exact absurd ⟨_, hr⟩ hn
  | nothing reason => exact ⟨reason, rfl⟩
  | endless => exact absurd rfl hreturns

/-- **What comes of a submission is settled by what was received completely.** -/
theorem submit_settled (network : Network) (settings : Settings) (endpoint : String)
    (form : Form) : Settled network settings endpoint form where
  gives token := by
    constructor
    · intro h
      have hends := comesTo_submit network settings endpoint form
      rw [h] at hends
      cases hends with
      | token hr hs ht => exact ⟨_, hr, Response.isSuccess_iff.mp hs, ht⟩
    · rintro ⟨response, hr, hs, ht⟩
      rw [snd_submit_of_received hr, Token.ofResponse_of_some (Response.isSuccess_iff.mpr hs) ht]
      rfl
  protocol status body := by
    constructor
    · intro h
      have hends := comesTo_submit network settings endpoint form
      rw [h] at hends
      cases hends with
      | status hr hs => exact ⟨hr, fun hstatus => hs (Response.isSuccess_iff.mpr hstatus)⟩
    · rintro ⟨hr, hs⟩
      have hfails : ¬(⟨status, body⟩ : Response).isSuccess = true :=
        fun hsuccess => hs (Response.isSuccess_iff.mp hsuccess)
      rw [snd_submit_of_received hr, Token.ofResponse_of_status hfails]
      rfl
  malformed := by
    constructor
    · rintro ⟨reason, h⟩
      have hends := comesTo_submit network settings endpoint form
      rw [h] at hends
      cases hends with
      | noToken _ hr hs ht => exact ⟨_, hr, Response.isSuccess_iff.mp hs, ht⟩
    · rintro ⟨response, hr, hs, ht⟩
      rw [snd_submit_of_received hr, Token.ofResponse_of_none (Response.isSuccess_iff.mpr hs) ht]
      exact ⟨_, rfl⟩
  transport := by
    constructor
    · rintro ⟨reason, h⟩
      have hends := comesTo_submit network settings endpoint form
      rw [h] at hends ⊢
      cases hends with
      | nothing _ hn => exact ⟨Option.some_ne_none _, hn⟩
    · rintro ⟨hreturns, hn⟩
      exact exists_transport hn hreturns
  cut := by
    intro ending head rest framing more body hc hf hu hb hm hreturns
    exact exists_transport (hc.not_received_of_cut hf hu hb hm) hreturns

end

/-- The body of a failure is read in the charset that its head names. -/
example :
    (submit
      { systemProxy := fun _ => none
        arrival := fun _ _ => .stream (Text.Utf8.encode
          ("HTTP/1.1 500 X\r\nContent-Type: text/plain; charset=windows-1251\r\n"
            ++ "Content-Length: 1\r\n\r\n").toList ++ [0xd4]) .closed }
      {} "http://[::1]/" .empty).2 = some (.fails (.protocol 500 "Ф")) := by
  decide +kernel

/-- The answer is closed in the middle of its body, whose beginning would be a token. -/
def interrupted : Network where
  systemProxy _ := none
  arrival _ _ :=
    .stream (Text.Utf8.encode "HTTP/1.1 200 OK\r\nContent-Length: 2\r\n\r\n7".toList) .closed

/-- The transport fails there. -/
theorem submit_settled_interrupted :
    (∃ token, Token.read? "7" = some token)
      ∧ Comes interrupted {} "http://[::1]/" .empty .closed
        ⟨false, 200, [⟨bytesOf "content-length", bytesOf "2"⟩]⟩ [55]
      ∧ ∃ reason, (submit interrupted {} "http://[::1]/" .empty).2
          = some (.fails (.transport reason)) := by
  have htoken : ∃ token, Token.read? "7" = some token :=
    Option.isSome_iff_exists.mp (by decide +kernel)
  obtain ⟨connection, hopen, hdirect⟩ := (Option.any_eq_true _ _).mp
    (show (Connection.ofEndpoint {} "http://[::1]/").toOption.any (fun connection =>
      (firstOf interrupted connection .empty).tunnel?.isNone
        && (withoutUser connection.url).isRequestable) = true
      by decide +kernel)
  obtain ⟨htunnel, hrequestable⟩ := Bool.and_eq_true_iff.mp hdirect
  have hhead : FinalHead
      (Text.Utf8.encode "HTTP/1.1 200 OK\r\nContent-Length: 2\r\n\r\n7".toList)
      ⟨false, 200, [⟨bytesOf "content-length", bytesOf "2"⟩]⟩ [55] :=
    (finalHead_eq_done_iff (Nat.lt_succ_self _)).mp (by decide +kernel)
  have hlength : Framing.Announced ⟨false, 200, [⟨bytesOf "content-length", bytesOf "2"⟩]⟩
      (.length 2) :=
    Framing.ofHead_eq_some_iff.mp (by decide +kernel)
  have hcomes : Comes interrupted {} "http://[::1]/" .empty .closed
      ⟨false, 200, [⟨bytesOf "content-length", bytesOf "2"⟩]⟩ [55] := by
    refine ⟨connection, Url.eq_ok_of_toOption hopen, hrequestable, ?_⟩
    exact .final (deliver_of_direct (Option.isNone_iff_eq_none.mp htunnel) rfl) hhead rfl
  have hreturns : (submit interrupted {} "http://[::1]/" .empty).2 ≠ none := by decide +kernel
  have hcomplete : (Framing.length 2).Completes .closed ([55] ++ [55]) [55, 55] [] :=
    Framing.read_eq_done_iff.mp rfl
  exact ⟨htoken, hcomes,
    (submit_settled interrupted {} "http://[::1]/" .empty).cut hcomes hlength (by decide) hcomplete
      (by decide) hreturns⟩

end Postbox.Http
