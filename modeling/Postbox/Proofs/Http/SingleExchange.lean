import Postbox.Http.Client
import Postbox.Proofs.Token.Answer
import Postbox.Proofs.Url.Scheme

namespace Postbox.Http

/-!
# One request and its answer

A submission is documented as a single exchange: the form goes to its endpoint, once, and an answer
whose status is no success is a failure that tells this status.  An answer that refers elsewhere is
followed instead, so the documentation holds of those submissions only in which nothing is followed,
and no tunnel has to be asked for.

* `submit_eq` — a submission is an exchange, and what its conclusion comes to.
* `exchangeFrom_ends_or_follows`, `prefix_exchangeFrom_of_stream` — an exchange goes on behind the
  requests that were received.
* `exchangeFrom_of_final`, `exchangeFrom_of_redirect` — what an answer leads to.
* `Headed`, `Answered` — the first request is answered.
* `SingleExchange` — what is documented of one submission.
* `Deviates`, `singleExchange_iff` — what breaks it, and that nothing else does.
-/

/-! ### What a submission comes to -/

/-- What a submission comes to when its exchange ends in a certain way. -/
def Conclusion.result? : Conclusion → Option (Turn Token)
  | complete response => some (.ofExcept (Token.ofResponse response))
  | failed failure => some (.fails failure)
  | endless => none

section

variable {network : Network} {settings : Settings} {endpoint : String} {form : Form}
  {connection : Connection}

/-- A submission with an open connection is the exchange of its request, and the answer taken. -/
theorem submit_eq (h : Connection.ofEndpoint settings endpoint = .ok connection) :
    submit network settings endpoint form
      = ((exchange network connection (.ofForm form.body)).1,
        (exchange network connection (.ofForm form.body)).2.result?) := by
  have hx : exchangeWith network settings endpoint (.ofForm form.body)
      = exchange network connection (.ofForm form.body) := by rw [exchangeWith, h]
  have hopens : opens settings endpoint = .gives () := by rw [opens, h]
  rw [submit, transport?, hx]
  cases (exchange network connection (.ofForm form.body)).2 with
  | endless => rfl
  | failed failure =>
    simp only [Conclusion.turn?, Conclusion.result?, Option.map_some, Submission.send, hopens,
      Submission.sendOpened]
  | complete response =>
    simp only [Conclusion.turn?, Conclusion.result?, Option.map_some, Submission.send, hopens,
      Submission.sendOpened]

/-- Without a connection, nothing is sent. -/
theorem submit_of_error {fault : OpenFault}
    (h : Connection.ofEndpoint settings endpoint = .error fault) :
    (submit network settings endpoint form).1 = [] := by
  rw [submit, exchangeWith, h]

/-- The address of a connection is that of its endpoint. -/
theorem address_of_ofEndpoint (h : Connection.ofEndpoint settings endpoint = .ok connection) :
    Connection.address endpoint = .ok connection.url := by
  unfold Connection.ofEndpoint at h
  obtain ⟨url, hurl, h⟩ := Url.exists_of_bind h
  obtain ⟨proxy, -, h⟩ := Url.exists_of_bind h
  split at h
  · cases h
    exact hurl
  · cases h

end

/-! ### What becomes of one request -/

/-- What is sent first on behalf of a request: the request for a tunnel, if one is needed. -/
def Outgoing.opener (out : Outgoing) : Outgoing := out.tunnel?.getD out

section

variable {network : Network} {settings : Settings} {sent : List Outgoing} {out : Outgoing}

theorem opener_of_direct (h : out.tunnel? = none) : out.opener = out := by
  rw [Outgoing.opener, h, Option.getD_none]

/-- Otherwise the request for the tunnel does. -/
theorem opener_of_tunnel? {tunnel : Outgoing} (h : out.tunnel? = some tunnel) :
    out.opener = tunnel := by
  rw [Outgoing.opener, h, Option.getD_some]

/-- The request for a tunnel says so. -/
theorem method_of_tunnel? {tunnel : Outgoing} (h : out.tunnel? = some tunnel) :
    tunnel.method = "CONNECT" := by
  rw [Outgoing.tunnel?] at h
  split at h
  · split at h
    · cases h; rfl
    · cases h
  · cases h

theorem send_of_refused (h : network.arrival sent out = .refused) :
    send network sent out = (sent, .refused) := by
  rw [send, h]

/-- A request that is answered is received behind the others. -/
theorem send_of_stream {bytes : List UInt8} {ending : Ending}
    (h : network.arrival sent out = .stream bytes ending) :
    send network sent out = (sent ++ [out], .stream bytes ending) := by
  rw [send, h]

/-- What was received stays received. -/
theorem prefix_send (network : Network) (sent : List Outgoing) (out : Outgoing) :
    sent <+: (send network sent out).1 := by
  rw [send]
  split
  · exact List.prefix_refl sent
  · exact List.prefix_append sent [out]

/-- If the way to a machine is closed, the request is not received. -/
theorem deliver_of_refused (h : network.arrival sent out.opener = .refused) :
    deliver network settings sent out = (sent, .inl .refused) := by
  cases ht : out.tunnel? with
  | none =>
    rw [opener_of_direct ht] at h
    simp only [deliver, ht, send_of_refused h]
  | some tunnel =>
    rw [opener_of_tunnel? ht] at h
    simp only [deliver, ht, send_of_refused h]

/-- A request that needs no tunnel is sent as it is. -/
theorem deliver_of_direct (ht : out.tunnel? = none) {bytes : List UInt8} {ending : Ending}
    (h : network.arrival sent out = .stream bytes ending) :
    deliver network settings sent out = (sent ++ [out], .inl (.stream bytes ending)) := by
  simp only [deliver, ht, send_of_stream h]

/-- If the way is open, the opener is received behind what was received before. -/
theorem prefix_deliver_of_stream {bytes : List UInt8} {ending : Ending}
    (h : network.arrival sent out.opener = .stream bytes ending) :
    sent ++ [out.opener] <+: (deliver network settings sent out).1 := by
  cases ht : out.tunnel? with
  | none =>
    rw [opener_of_direct ht] at h ⊢
    simp only [deliver_of_direct ht h, List.prefix_refl]
  | some tunnel =>
    rw [opener_of_tunnel? ht] at h ⊢
    simp only [deliver, ht, send_of_stream h]
    split
    · exact prefix_send network (sent ++ [tunnel]) out
    · split <;> exact List.prefix_refl _

/-- What was received before stays received. -/
theorem prefix_deliver (network : Network) (settings : Settings) (sent : List Outgoing)
    (out : Outgoing) : sent <+: (deliver network settings sent out).1 := by
  cases h : network.arrival sent out.opener with
  | refused => simp only [deliver_of_refused h, List.prefix_refl]
  | stream bytes ending =>
    exact (List.prefix_append sent _).trans (prefix_deliver_of_stream h)

variable {proxies : Url → Option Url} {limit : Nat}

/-- An exchange ends where its request is refused. -/
theorem exchangeFrom_of_refused (h : network.arrival sent out.opener = .refused) :
    exchangeFrom network settings proxies limit sent out
      = (sent, .failed (ExchangeFault.refused.failure out.url)) := by
  rw [exchangeFrom, deliver_of_refused h]

/-- An exchange ends with the delivery of its request, or goes on with another one. -/
theorem exchangeFrom_ends_or_follows (network : Network) (settings : Settings)
    (proxies : Url → Option Url) (limit : Nat) (sent : List Outgoing) (out : Outgoing) :
    (exchangeFrom network settings proxies limit sent out).1 = (deliver network settings sent out).1
      ∨ ∃ others next, limit = others + 1
        ∧ exchangeFrom network settings proxies limit sent out
          = exchangeFrom network settings proxies others (deliver network settings sent out).1
              next := by
  rw [exchangeFrom]
  split
  · next h => exact .inl (by rw [h])
  · next h => exact .inl (by rw [h])
  · next h =>
    rw [h]
    split
    · exact .inl rfl
    · exact .inl rfl
    · split
      · exact .inl rfl
      · exact .inl rfl
      · next next others _ =>
        split
        · exact .inr ⟨others, next, rfl, rfl⟩
        · exact .inl rfl

/-- An exchange goes on behind the requests that were received. -/
theorem prefix_exchangeFrom_of_deliver (network : Network) (settings : Settings)
    (proxies : Url → Option Url) (limit : Nat) (sent : List Outgoing) (out : Outgoing) :
    (deliver network settings sent out).1
      <+: (exchangeFrom network settings proxies limit sent out).1 := by
  -- On the number of answers that may still be followed; each of them is followed by a delivery
  -- behind the requests so far.
  induction limit generalizing sent out with
  | zero =>
    obtain h | ⟨others, next, h, _⟩ :=
      exchangeFrom_ends_or_follows network settings proxies 0 sent out
    · simp only [h, List.prefix_refl]
    · cases h
  | succ limit ih =>
    obtain h | ⟨others, next, hl, h⟩ :=
      exchangeFrom_ends_or_follows network settings proxies (limit + 1) sent out
    · simp only [h, List.prefix_refl]
    · cases hl
      rw [h]
      exact (prefix_deliver network settings _ next).trans (ih _ next)

/-- If the way is open, the opener is received behind what was received before. -/
theorem prefix_exchangeFrom_of_stream {bytes : List UInt8} {ending : Ending}
    (h : network.arrival sent out.opener = .stream bytes ending) :
    sent ++ [out.opener] <+: (exchangeFrom network settings proxies limit sent out).1 :=
  (prefix_deliver_of_stream h).trans
    (prefix_exchangeFrom_of_deliver network settings proxies limit sent out)

section

variable {received : List Outgoing} {bytes : List UInt8} {ending : Ending} {head : Head}
  {rest : List UInt8}

/-- Without the head of an answer, nothing else is sent. -/
theorem exchangeFrom_of_no_head
    (hd : deliver network settings sent out = (received, .inl (.stream bytes ending)))
    (hh : ∀ head rest, finalHead (bytes.length + 1) bytes ≠ .done head rest) :
    (exchangeFrom network settings proxies limit sent out).1 = received := by
  rw [exchangeFrom, hd]
  dsimp only
  split
  · rfl
  · rfl
  · next hf => exact absurd hf (hh _ _)

/-- An answer that refers nowhere else is read to its end. -/
theorem exchangeFrom_of_final
    (hd : deliver network settings sent out = (received, .inl (.stream bytes ending)))
    (hh : finalHead (bytes.length + 1) bytes = .done head rest)
    (hr : redirect? proxies out head = none) :
    exchangeFrom network settings proxies limit sent out
      = (received, concluded settings ending out.url head rest) := by
  rw [exchangeFrom, hd]
  simp only [hh, hr]

/-- An answer that refers elsewhere is not read any further. -/
theorem exchangeFrom_of_redirect {next : Outgoing}
    (hd : deliver network settings sent out = (received, .inl (.stream bytes ending)))
    (hh : finalHead (bytes.length + 1) bytes = .done head rest)
    (hr : redirect? proxies out head = some next) :
    exchangeFrom network settings proxies (limit + 1) sent out
      = if next.url.isHttp then exchangeFrom network settings proxies limit received next
        else (received, .failed (ExchangeFault.badRedirect.failure next.url)) := by
  rw [exchangeFrom, hd]
  simp only [hh, hr]

end

end

/-! ### The first answer -/

/-- The request that an exchange with a form begins with. -/
def firstOf (network : Network) (connection : Connection) (form : Form) : Outgoing :=
  .ofRequest connection (proxyFor network connection connection.url) (.ofForm form.body)

/-- The form goes out over the connection, and this is the head of the final answer to it, with the
    bytes behind it. -/
structure Headed (network : Network) (settings : Settings) (endpoint : String) (form : Form)
    (connection : Connection) (ending : Ending) (head : Head) (rest : List UInt8) : Prop where
  opened : Connection.ofEndpoint settings endpoint = .ok connection
  requestable : (withoutUser connection.url).isRequestable = true
  arrived : ∃ bytes,
    (deliver network connection.settings [] (firstOf network connection form)).2
        = .inl (.stream bytes ending)
      ∧ finalHead (bytes.length + 1) bytes = .done head rest

/-- The form is answered, and this is the complete answer. -/
def Answered (network : Network) (settings : Settings) (endpoint : String) (form : Form)
    (response : Response) : Prop :=
  ∃ connection ending head rest,
    Headed network settings endpoint form connection ending head rest
      ∧ concluded connection.settings ending (firstOf network connection form).url head rest
        = .complete response

section

variable {network : Network} {settings : Settings} {endpoint : String} {form : Form}
  {connection : Connection} {ending : Ending} {head : Head} {rest : List UInt8}

/-- A submission with an open connection is the exchange that its first request begins. -/
theorem submit_eq_exchangeFrom (ho : Connection.ofEndpoint settings endpoint = .ok connection)
    (hn : (withoutUser connection.url).isRequestable = true) :
    submit network settings endpoint form
      = ((exchangeFrom network connection.settings (proxyFor network connection) (8 + 1) []
            (firstOf network connection form)).1,
        (exchangeFrom network connection.settings (proxyFor network connection) (8 + 1) []
            (firstOf network connection form)).2.result?) := by
  have hx : exchange network connection (.ofForm form.body)
      = exchangeFrom network connection.settings (proxyFor network connection) (8 + 1) []
          (firstOf network connection form) := by
    rw [exchange, if_pos hn]
    rfl
  rw [submit_eq ho, hx]

/-- Where there is an answer, the way was open. -/
theorem Headed.received (h : Headed network settings endpoint form connection ending head rest) :
    ∃ bytes ending', network.arrival [] (firstOf network connection form).opener
      = .stream bytes ending' := by
  cases ha : network.arrival [] (firstOf network connection form).opener with
  | stream bytes ending' => exact ⟨bytes, ending', rfl⟩
  | refused =>
    obtain ⟨bytes, hd, -⟩ := h.arrived
    rw [deliver_of_refused ha] at hd
    cases hd

/-- Without a tunnel, the first request is received, and its answer arrives. -/
theorem Headed.delivered (h : Headed network settings endpoint form connection ending head rest)
    (ht : (firstOf network connection form).tunnel? = none) :
    ∃ bytes, deliver network connection.settings [] (firstOf network connection form)
        = ([firstOf network connection form], .inl (.stream bytes ending))
      ∧ finalHead (bytes.length + 1) bytes = .done head rest := by
  obtain ⟨bytes, hd, hh⟩ := h.arrived
  refine ⟨bytes, ?_, hh⟩
  simp only [deliver, ht, send] at hd ⊢
  split at hd
  · cases hd
  · cases hd
    rfl

/-- An answer has the status of its head. -/
theorem status_of_concluded {url : Url} {response : Response}
    (h : concluded settings ending url head rest = .complete response) :
    response.status = head.status := by
  rw [concluded] at h
  split at h
  · cases h
  · split at h
    · cases h; rfl
    · rw [stalled] at h
      split at h <;> cases h
    · cases h

/-- An answer that refers elsewhere is no success. -/
theorem status_of_redirect? {proxies : Url → Option Url} {out next : Outgoing}
    (h : redirect? proxies out head = some next) : 300 ≤ head.status := by
  rw [redirect?] at h
  split at h
  · next hr _ =>
    rw [repeats?] at hr
    split at hr
    · omega
    · split at hr
      · omega
      · cases hr
  · cases h

end

/-! ### What is documented -/

/-- A request posts a form to an endpoint. -/
structure Posts (endpoint : String) (form : Form) (out : Outgoing) : Prop where
  method : out.method = "POST"
  contentType : out.contentType = some "application/x-www-form-urlencoded"
  body : out.body = Text.Utf8.encode form.body.toList
  url : ∃ url, Connection.address endpoint = .ok url ∧ out.url = withoutUser url

/-- What is documented of one submission: it is a single exchange.  At most one request is made, it
    posts the form to the endpoint, and a complete answer without success is told. -/
structure SingleExchange (network : Network) (settings : Settings) (endpoint : String)
    (form : Form) : Prop where
  once : (submit network settings endpoint form).1.length ≤ 1
  posted : ∀ out ∈ (submit network settings endpoint form).1, Posts endpoint form out
  told : ∀ response, Answered network settings endpoint form response →
    response.isSuccess = false →
      (submit network settings endpoint form).2
        = some (.fails (.protocol response.status response.body))

/-- What a submission does instead: it asks for a tunnel, or its answer refers elsewhere and is
    followed. -/
inductive Deviates (network : Network) (settings : Settings) (endpoint : String) (form : Form) :
    Prop where
  /-- A tunnel is asked for. -/
  | tunnel {connection : Connection} {tunnel : Outgoing} {bytes : List UInt8} {ending : Ending}
      (opened : Connection.ofEndpoint settings endpoint = .ok connection)
      (requestable : (withoutUser connection.url).isRequestable = true)
      (needed : (firstOf network connection form).tunnel? = some tunnel)
      (arrived : network.arrival [] tunnel = .stream bytes ending)
  /-- The answer is complete, but refers elsewhere. -/
  | dropped {connection : Connection} {ending : Ending} {head : Head} {rest : List UInt8}
      {next : Outgoing} {response : Response}
      (headed : Headed network settings endpoint form connection ending head rest)
      (referred : redirect? (proxyFor network connection) (firstOf network connection form) head
        = some next)
      (complete : concluded connection.settings ending (firstOf network connection form).url head
        rest = .complete response)
  /-- The answer refers elsewhere, and the way there is open. -/
  | followed {connection : Connection} {ending : Ending} {head : Head} {rest : List UInt8}
      {next : Outgoing} {bytes : List UInt8} {ending' : Ending}
      (headed : Headed network settings endpoint form connection ending head rest)
      (referred : redirect? (proxyFor network connection) (firstOf network connection form) head
        = some next)
      (http : next.url.isHttp = true)
      (arrived : network.arrival [firstOf network connection form] next.opener
        = .stream bytes ending')

section

variable {network : Network} {settings : Settings} {endpoint : String} {form : Form}
  {connection : Connection} {ending : Ending} {head : Head} {rest : List UInt8}

/-- The first request posts the form. -/
theorem posts_firstOf (h : Connection.ofEndpoint settings endpoint = .ok connection) :
    Posts endpoint form (firstOf network connection form) where
  method := rfl
  contentType := rfl
  body := rfl
  url := ⟨connection.url, address_of_ofEndpoint h, rfl⟩

/-- A single exchange asks for no tunnel. -/
theorem SingleExchange.arrival_tunnel (h : SingleExchange network settings endpoint form)
    {tunnel : Outgoing} (ho : Connection.ofEndpoint settings endpoint = .ok connection)
    (hn : (withoutUser connection.url).isRequestable = true)
    (ht : (firstOf network connection form).tunnel? = some tunnel) :
    network.arrival [] tunnel = .refused := by
  cases ha : network.arrival [] tunnel with
  | refused => rfl
  | stream bytes ending =>
    -- The request for a tunnel would be received, and is no post.
    have hopener := opener_of_tunnel? ht
    have hmem : tunnel ∈ (submit network settings endpoint form).1 := by
      rw [submit_eq_exchangeFrom ho hn]
      refine (prefix_exchangeFrom_of_stream (hopener.symm ▸ ha)).subset ?_
      rw [hopener]
      exact List.mem_singleton_self tunnel
    have hmethod := (h.posted tunnel hmem).method
    rw [method_of_tunnel? ht] at hmethod
    exact absurd hmethod (by decide)

/-- A single exchange asks for no tunnel before its answer. -/
theorem SingleExchange.direct (h : SingleExchange network settings endpoint form)
    (hh : Headed network settings endpoint form connection ending head rest) :
    (firstOf network connection form).tunnel? = none := by
  cases ht : (firstOf network connection form).tunnel? with
  | none => rfl
  | some tunnel =>
    obtain ⟨bytes, ending', ha⟩ := hh.received
    rw [opener_of_tunnel? ht, h.arrival_tunnel hh.opened hh.requestable ht] at ha
    cases ha

/-- A single exchange leads nowhere else. -/
theorem SingleExchange.arrival_referred (h : SingleExchange network settings endpoint form)
    {next : Outgoing} (hh : Headed network settings endpoint form connection ending head rest)
    (hr : redirect? (proxyFor network connection) (firstOf network connection form) head
      = some next)
    (hx : next.url.isHttp = true) :
    network.arrival [firstOf network connection form] next.opener = .refused := by
  cases ha : network.arrival [firstOf network connection form] next.opener with
  | refused => rfl
  | stream bytes ending' =>
    -- Two requests would be received: the first one, and what opens the way from its answer.
    obtain ⟨bytes, hd, hf⟩ := hh.delivered (h.direct hh)
    have honce := h.once
    rw [submit_eq_exchangeFrom hh.opened hh.requestable, exchangeFrom_of_redirect hd hf hr,
      if_pos hx] at honce
    have htwo : 2 ≤ (exchangeFrom network connection.settings (proxyFor network connection) 8
        [firstOf network connection form] next).1.length :=
      (prefix_exchangeFrom_of_stream ha).length_le
    exact absurd (Nat.le_trans htwo honce) (by decide)

/-- If the way that an answer refers to is closed, or none that is taken, the submission fails
    without a word about the answer. -/
theorem submit_of_unfollowed {next : Outgoing}
    (hh : Headed network settings endpoint form connection ending head rest)
    (ht : (firstOf network connection form).tunnel? = none)
    (hr : redirect? (proxyFor network connection) (firstOf network connection form) head
      = some next)
    (hu : next.url.isHttp = true →
      network.arrival [firstOf network connection form] next.opener = .refused) :
    ∃ (fault : ExchangeFault) (url : Url), submit network settings endpoint form
      = ([firstOf network connection form], some (.fails (fault.failure url))) := by
  obtain ⟨bytes, hd, hf⟩ := hh.delivered ht
  rw [submit_eq_exchangeFrom hh.opened hh.requestable, exchangeFrom_of_redirect hd hf hr]
  split
  · next hx =>
    rw [exchangeFrom_of_refused (hu hx)]
    exact ⟨.refused, next.url, rfl⟩
  · exact ⟨.badRedirect, next.url, rfl⟩

/-- A single exchange does not deviate. -/
theorem SingleExchange.not_deviates (h : SingleExchange network settings endpoint form) :
    ¬Deviates network settings endpoint form := by
  rintro (⟨ho, hn, ht, ha⟩ | ⟨hh, hr, hc⟩ | ⟨hh, hr, hx, ha⟩)
  · rw [h.arrival_tunnel ho hn ht] at ha
    cases ha
  · next response =>
    -- This answer is no success, so it must be told; but what is told is where it leads to.
    obtain ⟨fault, url, hs⟩ := submit_of_unfollowed hh (h.direct hh) hr (h.arrival_referred hh hr)
    have hstatus : response.isSuccess = false := by
      rw [Bool.eq_false_iff, ne_eq, Response.isSuccess_iff, status_of_concluded hc]
      have := status_of_redirect? hr
      omega
    have htold := h.told response ⟨_, _, _, _, hh, hc⟩ hstatus
    rw [hs] at htold
    cases htold
  · rw [h.arrival_referred hh hr hx] at ha
    cases ha

/-- An answer that refers nowhere else is told. -/
theorem submit_of_final
    (hh : Headed network settings endpoint form connection ending head rest)
    (ht : (firstOf network connection form).tunnel? = none)
    (hr : redirect? (proxyFor network connection) (firstOf network connection form) head = none) :
    submit network settings endpoint form
      = ([firstOf network connection form],
        (concluded connection.settings ending (firstOf network connection form).url head
          rest).result?) := by
  obtain ⟨bytes, hd, hf⟩ := hh.delivered ht
  rw [submit_eq_exchangeFrom hh.opened hh.requestable, exchangeFrom_of_final hd hf hr]

/-- A submission that does not deviate asks for no tunnel if the way is open. -/
theorem direct_of_not_deviates (h : ¬Deviates network settings endpoint form)
    (ho : Connection.ofEndpoint settings endpoint = .ok connection)
    (hn : (withoutUser connection.url).isRequestable = true) {bytes : List UInt8}
    (ha : network.arrival [] (firstOf network connection form).opener = .stream bytes ending) :
    (firstOf network connection form).tunnel? = none := by
  cases ht : (firstOf network connection form).tunnel? with
  | none => rfl
  | some tunnel =>
    rw [opener_of_tunnel? ht] at ha
    exact absurd (.tunnel ho hn ht ha) h

/-- A submission that does not deviate follows no answer. -/
theorem Headed.prefix_submit (h : ¬Deviates network settings endpoint form)
    (hh : Headed network settings endpoint form connection ending head rest)
    (ht : (firstOf network connection form).tunnel? = none) :
    (submit network settings endpoint form).1 <+: [firstOf network connection form] := by
  cases hr : redirect? (proxyFor network connection) (firstOf network connection form) head with
  | none => simp only [submit_of_final hh ht hr, List.prefix_refl]
  | some next =>
    have hu (hx : next.url.isHttp = true) :
        network.arrival [firstOf network connection form] next.opener = .refused := by
      cases ha : network.arrival [firstOf network connection form] next.opener with
      | refused => rfl
      | stream bytes ending' => exact absurd (.followed hh hr hx ha) h
    obtain ⟨fault, url, hs⟩ := submit_of_unfollowed hh ht hr hu
    simp only [hs, List.prefix_refl]

/-- A submission that does not deviate makes no other request than the first. -/
theorem prefix_submit_of_not_deviates (h : ¬Deviates network settings endpoint form)
    (ho : Connection.ofEndpoint settings endpoint = .ok connection) :
    (submit network settings endpoint form).1 <+: [firstOf network connection form] := by
  -- Nothing is received, or the first request is, and its answer tells whether more follows.
  by_cases hn : (withoutUser connection.url).isRequestable = true
  · cases ha : network.arrival [] (firstOf network connection form).opener with
    | refused =>
      rw [submit_eq_exchangeFrom ho hn, exchangeFrom_of_refused ha]
      exact List.nil_prefix
    | stream bytes ending =>
      have ht := direct_of_not_deviates h ho hn ha
      rw [opener_of_direct ht] at ha
      have hd : deliver network connection.settings [] (firstOf network connection form)
          = ([firstOf network connection form], .inl (.stream bytes ending)) :=
        deliver_of_direct ht ha
      by_cases hf : ∃ head rest, finalHead (bytes.length + 1) bytes = .done head rest
      · obtain ⟨head, rest, hf⟩ := hf
        exact Headed.prefix_submit h ⟨ho, hn, bytes, by rw [hd], hf⟩ ht
      · rw [submit_eq_exchangeFrom ho hn]
        simp only [exchangeFrom_of_no_head hd fun head rest hf' => hf ⟨head, rest, hf'⟩]
        exact List.prefix_refl _
  · rw [submit_eq ho, exchange, if_neg hn]
    exact List.nil_prefix

/-- A submission that does not deviate tells every complete answer without success. -/
theorem told_of_not_deviates (h : ¬Deviates network settings endpoint form) {response : Response}
    (ha : Answered network settings endpoint form response) (hstatus : response.isSuccess = false) :
    (submit network settings endpoint form).2
      = some (.fails (.protocol response.status response.body)) := by
  obtain ⟨connection, ending, head, rest, hh, hc⟩ := ha
  cases hr : redirect? (proxyFor network connection) (firstOf network connection form) head with
  | some next => exact absurd (.dropped hh hr hc) h
  | none =>
    obtain ⟨bytes, ending', harrival⟩ := hh.received
    have ht := direct_of_not_deviates h hh.opened hh.requestable harrival
    have hfails : Token.ofResponse response = .error (.protocol response.status response.body) :=
      Token.ofResponse_of_status (by rw [hstatus]; exact Bool.false_ne_true)
    rw [submit_of_final hh ht hr, hc, Conclusion.result?, hfails]
    rfl

/-- **A submission is the single exchange that is documented exactly if it does not deviate.**  At
    most one request is made, it posts the form to the endpoint, and each complete answer without
    success is told, unless a tunnel is asked for or the answer refers elsewhere; and if one of
    these happens, one of the promises is broken. -/
theorem singleExchange_iff (network : Network) (settings : Settings) (endpoint : String)
    (form : Form) :
    SingleExchange network settings endpoint form ↔ ¬Deviates network settings endpoint form := by
  constructor
  · exact SingleExchange.not_deviates
  · intro h
    cases ho : Connection.ofEndpoint settings endpoint with
    | error fault =>
      have hs : (submit network settings endpoint form).1 = [] := submit_of_error ho
      exact ⟨by simp [hs], by simp [hs], fun response => told_of_not_deviates h⟩
    | ok connection =>
      have hs := prefix_submit_of_not_deviates h ho
      refine ⟨hs.length_le, fun out hout => ?_, fun response => told_of_not_deviates h⟩
      cases List.mem_singleton.mp (hs.subset hout)
      exact posts_firstOf ho

end

/-- The first request is told to come to another place of the same machine, and the next one is
    accepted there. -/
def moved : Network where
  systemProxy _ := none
  arrival sent _ :=
    match sent with
    | [] => .stream (Text.Utf8.encode
        "HTTP/1.1 307 Moved\r\nLocation: /moved\r\nContent-Length: 5\r\n\r\nmoved".toList) .closed
    | _ :: _ => .stream (Text.Utf8.encode
        "HTTP/1.1 201 Created\r\nContent-Length: 1\r\n\r\n7".toList) .closed

/-- The form is posted twice there. -/
theorem not_singleExchange_moved :
    ¬SingleExchange moved { useSystemProxy := false } "http://[::1]/report" .empty :=
  fun h => absurd h.once (by decide +kernel)

end Postbox.Http
