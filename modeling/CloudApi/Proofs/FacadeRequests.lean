import CloudApi.Proofs.Sending
import CloudApi.Proofs.SessionRuns

/-!
# Requests of facades

Where the requests of a facade go is settled when the facade is made, and nothing that is done
later changes it. A facade of a service has the endpoint of the service's handler; the facade of a
region has the public endpoint of the region, wherever the facade went that it was made from.

`FacadeRequest.envelope?` is what a request to a facade asks to be sent, and `Session.issued` is
what an operation has prepared or sent.

## Key results

- `issued_facade`: what is asked of a facade is issued through its call target
- `Session.Sound.serves`: and will be, whatever is done in between
- `Session.Sound.redirects`: what redirecting a facade comes to
- `facades_keep_their_endpoints`: the endpoints of facades that are made and redirected in a
  session
-/

namespace CloudApi

/-! ### What is asked -/

/-- The envelope that is asked for by a request to the capability `c`, if the request is one to
prepare or to send something, and passes the checks. -/
def CapabilityRequest.envelope? (c : Capability) : CapabilityRequest → Option Envelope
  | .prepare q | .describe q => (c.envelope q).toOption
  | .describeLoose ids filters => (c.queryOfLoose ids filters >>= c.envelope).toOption
  | .itself | .envelope _ | .queryOfLoose _ _ => none

/-- The envelope that is asked for by a request to the facade `f`. -/
def FacadeRequest.envelope? (f : Facade) : FacadeRequest → Option Envelope
  | .prepare e | .call e => some e
  | .capability name request =>
    (f.definition? name).bind fun d => request.envelope? ⟨d, f.target⟩
  | .describeAccountAttributes attributes => (Ec2.accountAttributes attributes).toOption
  | .describeRegions => some Ec2.describeRegions
  | .listZones => some CloudStack.listZones
  | .listAccounts domain => some (CloudStack.listAccounts domain)
  | .names | .target | .forRegion _ | .accountAttributes _ => none

theorem Facade.Same.envelope? {f f' : Facade} (s : f.Same f') (request : FacadeRequest) :
    request.envelope? f' = request.envelope? f := by
  cases request with
  | capability name request =>
    simp only [FacadeRequest.envelope?, s.definition? name, s.target]
  | _ => rfl

/-! ### What is issued -/

/-- The request that has been prepared, if one has. -/
def Outcome.prepared? : Outcome → Option Prepared
  | .prepared r => some r
  | _ => none

private theorem prepared?_ofExcept {α : Type} {f : α → Outcome}
    (hf : ∀ a, (f a).prepared? = none) (x : Except Error α) :
    (Outcome.ofExcept f x).prepared? = none := by
  cases x with
  | error e => rfl
  | ok a => exact hf a

namespace Session

/-- What has been issued once a session with the link `before` has come to this: the request that
has been prepared, and what has been sent. -/
def requestsSince (before : Link) (result : Outcome × Session) : List Prepared :=
  result.1.prepared?.toList ++ result.2.link.sent.drop before.sent.length

/-- The requests that an operation issues. -/
def issued (s : Session) (o : Operation) : List Prepared := requestsSince s.link (s.perform o)

variable {s : Session}

private theorem requestsSince_unsent {l : Link} {result : Outcome × Session}
    (h : result.2.link = l) : requestsSince l result = result.1.prepared?.toList := by
  simp only [requestsSince, h]
  rw [List.drop_length, List.append_nil]

private theorem requestsSince_quiet {l : Link} {result : Outcome × Session}
    (ho : result.1.prepared? = none) (hl : result.2.link = l) : requestsSince l result = [] := by
  rw [requestsSince_unsent hl, ho]
  rfl

private theorem requestsSince_received {l : Link} {result : Except Error (Option Json) × Link}
    {requests : List Prepared} (h : result.2.sent = l.sent ++ requests) :
    requestsSince l (s.received result) = requests := by
  have answered : (Outcome.ofExcept .answer result.1).prepared? = none :=
    prepared?_ofExcept (fun _ => rfl) _
  simp only [requestsSince, received, answered]
  rw [h, List.drop_left]
  rfl

end Session

/-- A call sends the request for its envelope. -/
private theorem sent_call (t : CallTarget) (e : Envelope) (l : Link) :
    (t.call e l).2.sent = l.sent ++ [t.prepare e] := by
  unfold CallTarget.call
  rw [exchange_link]

/-- A query sends the request for its envelope, if it has one. -/
private theorem sent_describe (c : Capability) (q : Query) (l : Link) :
    (c.describe q l).2.sent =
      l.sent ++ (c.envelope q).toOption.toList.map c.target.prepare := by
  unfold Capability.describe
  cases c.envelope q with
  | error e => exact (List.append_nil l.sent).symm
  | ok e => exact sent_call c.target e l

private theorem sent_describeLoose (c : Capability) (ids filters : Loose) (l : Link) :
    (c.describeLoose ids filters l).2.sent =
      l.sent ++
        (c.queryOfLoose ids filters >>= c.envelope).toOption.toList.map c.target.prepare := by
  unfold Capability.describeLoose
  cases c.queryOfLoose ids filters with
  | error e => exact (List.append_nil l.sent).symm
  | ok q => exact sent_describe c q l

namespace Session

variable {s : Session}

private theorem issued_sendTo (s : Session) (f : Facade) (e : Envelope) :
    requestsSince s.link (s.sendTo f e) = [f.target.prepare e] :=
  requestsSince_received (sent_call f.target e s.link)

private theorem issued_capability (s : Session) (i : Instance Capability)
    (request : CapabilityRequest) :
    requestsSince s.link (s.performCapability i request) =
      (request.envelope? i.value).toList.map i.value.target.prepare := by
  -- two requests send, one prepares, and the others issue nothing
  cases request with
  | itself => exact requestsSince_quiet rfl rfl
  | envelope q =>
    exact requestsSince_quiet (prepared?_ofExcept (fun _ => rfl) _) rfl
  | queryOfLoose ids filters =>
    exact requestsSince_quiet (prepared?_ofExcept (fun _ => rfl) _) rfl
  | describe q => exact requestsSince_received (sent_describe i.value q s.link)
  | describeLoose ids filters =>
    exact requestsSince_received (sent_describeLoose i.value ids filters s.link)
  | prepare q =>
    refine (requestsSince_unsent rfl).trans ?_
    simp only [performCapability, CapabilityRequest.envelope?, Capability.prepare]
    cases i.value.envelope q <;> rfl

private theorem prepared?_facadeOutcome (result : Except SetupError Nat × Session) :
    (facadeOutcome result).1.prepared? = none := by
  unfold facadeOutcome
  split
  · split <;> rfl
  · rfl

private theorem link_redirect (s : Session) (f : Facade) (region : String) :
    (s.redirect f region).2.link = s.link := by
  unfold redirect
  cases f.forRegion s.resolver region <;> rfl

/-- A redirection issues nothing. -/
private theorem issued_forRegion (s : Session) (f : Facade) (region : String) :
    requestsSince s.link (facadeOutcome (s.redirect f region)) = [] := by
  refine requestsSince_quiet (prepared?_facadeOutcome _) ?_
  rw [facadeOutcome_snd]
  exact link_redirect s f region

/-- What is asked of a facade is issued through its call target, and nothing else is. -/
theorem issued_facade (hs : s.Sound) {index : Nat} {f : Facade}
    (hf : s.facades[index]? = some f) (request : FacadeRequest) :
    s.issued (.facade index request) =
      (request.envelope? f).toList.map f.target.prepare := by
  have sound := hs.facades f (List.mem_of_getElem? hf)
  simp only [issued, perform, hf]
  cases request with
  | names => exact requestsSince_quiet rfl rfl
  | target => exact requestsSince_quiet rfl rfl
  | forRegion region => exact issued_forRegion s f region
  | capability name request =>
    obtain ⟨undefined, e, missing⟩ | ⟨d, i, f', defined, found, value, _⟩ :=
      sound.capability name
    · simp only [performFacade, missing, FacadeRequest.envelope?, undefined]
      exact requestsSince_quiet rfl rfl
    · simp only [performFacade, found, FacadeRequest.envelope?, defined]
      -- the facade that is put back in place sends over the same link
      have issued := issued_capability (s.setFacade index f') i request
      rw [value] at issued
      exact issued
  | prepare e => exact requestsSince_unsent rfl
  | call e => exact issued_sendTo s f e
  | accountAttributes attributes =>
    exact requestsSince_quiet (prepared?_ofExcept (fun _ => rfl) _) rfl
  | describeAccountAttributes attributes =>
    simp only [performFacade, FacadeRequest.envelope?]
    cases Ec2.accountAttributes attributes with
    | error e => exact requestsSince_quiet rfl rfl
    | ok e => exact issued_sendTo s f e
  | describeRegions => exact issued_sendTo s f _
  | listZones => exact issued_sendTo s f _
  | listAccounts domain => exact issued_sendTo s f _

/-! ### From now on -/

/-- Whatever is done from `s` on, the facade at this index reports `endpoint` for its target, and
what is asked of it is issued in the protocol of its service, to `endpoint`, at the version that
the service's policy picks for the session's provider. What is asked is read off `f`. -/
def Serves (s : Session) (index : Nat) (f : Facade) (endpoint : Endpoint) : Prop :=
  ∃ b, s.resolver.binding f.service = .ok b ∧
    ∀ s', s.Leads s' →
      (∃ t, (s'.perform (.facade index .target)).1 = .target t ∧ t.endpoint = endpoint) ∧
      ∀ request : FacadeRequest, s'.issued (.facade index request) =
        (request.envelope? f).toList.map
          (b.protocol.prepare endpoint (b.descriptor.versionFor s.resolver.context.provider))

/-- A facade serves the endpoint that it has. -/
theorem Sound.serves (hs : s.Sound) {index : Nat} {f : Facade}
    (hf : s.facades[index]? = some f) : s.Serves index f f.target.endpoint := by
  obtain ⟨b, hb, protocol, version⟩ :=
    (hs.facades f (List.mem_of_getElem? hf)).binding hs.resolver
  refine ⟨b, hb, fun s' h => ?_⟩
  obtain ⟨hs', kept⟩ := h.sound hs
  obtain ⟨f', hf', same⟩ := kept.facades index f hf
  constructor
  · refine ⟨f'.target, ?_, congrArg CallTarget.endpoint same.target⟩
    simp only [perform, hf']
    rfl
  · intro request
    rw [issued_facade hs' hf' request, same.envelope?, same.target]
    -- a call target prepares with its handler's protocol and version, at its own endpoint
    have target : f.target.prepare =
        b.protocol.prepare f.target.endpoint (s.resolver.versionOf b.descriptor) := by
      funext e
      rw [← protocol, ← version]
      rfl
    rw [target]
    rfl

private theorem facadeOutcome_eq_facade {result : Except SetupError Nat × Session}
    {index : Nat} {f : Facade} (h : (facadeOutcome result).1 = .facade index f) :
    result.1 = .ok index ∧ result.2.facades[index]? = some f := by
  obtain ⟨e | index', s'⟩ := result
  · exact nomatch h
  · unfold facadeOutcome at h
    dsimp only at h
    cases hf : s'.facades[index']? with
    | none =>
      rw [hf] at h
      exact nomatch h
    | some f' =>
      rw [hf] at h
      obtain ⟨rfl, rfl⟩ := Outcome.facade.injEq .. ▸ h
      exact ⟨rfl, hf⟩

/-- The facade that is opened goes to its handler's own endpoint, whether it is a new one or the
one that is kept for the main service. -/
private theorem Opens.override_eq_none (hs : s.Sound)
    {result : Except SetupError Nat × Session} (h : s.Opens result) {index : Nat} {f : Facade}
    (answer : result.1 = .ok index) (hf : result.2.facades[index]? = some f) :
    f.target.override = none := by
  -- the kept facade has never been redirected, nor has a new one
  cases h with
  | kept main index' hm hk =>
    cases answer
    obtain ⟨g, hg, own⟩ := hs.main main index hm hk
    obtain rfl := Option.some.inj (hg.symm.trans hf)
    exact own
  | made service g resolver main made keep =>
    cases answer
    obtain rfl := Option.some.inj (List.getElem?_concat_length.symm.trans hf)
    exact (sound_make hs.resolver made).2.2
  | failed service e resolver failed => exact nomatch answer

/-- A redirection as it is carried out, for a service with these public host names. -/
private theorem perform_forRegion {index : Nat} {g : Facade} {b : Binding}
    (hg : s.facades[index]? = some g) (hb : s.resolver.binding g.service = .ok b)
    (region : String) :
    s.perform (.facade index (.forRegion region)) =
      match b.descriptor.dns with
      | none => (.failedSetup (.noPublicEndpoint b.descriptor.name), s)
      | some dns =>
        let f : Facade := .assemble g.service g.definitions
          { handler := g.target.handler, override := some ⟨dns.hostFor (some region)⟩ }
        (.facade s.facades.length f, { s with facades := s.facades ++ [f] }) := by
  -- the session has no say in where a region is
  have located : s.resolver.endpoint b.descriptor (some region) =
      match b.descriptor.dns with
      | none => .error (.noPublicEndpoint b.descriptor.name)
      | some dns => .ok ⟨dns.hostFor (some region)⟩ := by
    unfold Resolver.endpoint Resolver.publicEndpoint
    cases b.descriptor.dns <;> rfl
  have redirected : g.forRegion s.resolver region =
      (s.resolver.endpoint b.descriptor (some region)).map fun endpoint =>
        .assemble g.service g.definitions
          { handler := g.target.handler, override := some endpoint } := by
    unfold Facade.forRegion
    rw [hb]
    show (s.resolver.endpoint b.descriptor (some region) >>= _) = _
    cases s.resolver.endpoint b.descriptor (some region) <;> rfl
  simp only [perform, hg, performFacade, redirect, redirected, located]
  cases b.descriptor.dns with
  | none => rfl
  | some dns =>
    -- the facade is added at the end, so that is where its index points
    simp only [Except.map, facadeOutcome, addFacade, List.getElem?_concat_length]

/-- What redirecting the facade `g` comes to, if its service has these public host names. Without
any it fails, and nothing has changed. Otherwise there is one more facade, for the same
capabilities at the public endpoint of the region. -/
def Redirects (s : Session) (g : Facade) (region : String) (result : Outcome × Session) :
    Option DnsPattern → Prop
  | none => ∃ e, result = (.failed e, s)
  | some dns => ∃ f s', result = (.facade s.facades.length f, s') ∧
      s'.facades = s.facades ++ [f] ∧ f.service = g.service ∧ f.definitions = g.definitions ∧
      s'.Serves s.facades.length f ⟨dns.hostFor (some region)⟩

theorem Sound.redirects (hs : s.Sound) {index : Nat} {g : Facade}
    (hg : s.facades[index]? = some g) (region : String) :
    ∃ b, s.resolver.binding g.service = .ok b ∧
      s.Redirects g region (s.perform (.facade index (.forRegion region))) b.descriptor.dns := by
  obtain ⟨b, hb, _, _⟩ := (hs.facades g (List.mem_of_getElem? hg)).binding hs.resolver
  refine ⟨b, hb, ?_⟩
  have sound := (change_perform hs (.facade index (.forRegion region))).sound hs
  -- the new facade is sound, so it serves the endpoint that it was given
  have performed := perform_forRegion hg hb region
  cases hd : b.descriptor.dns with
  | none =>
    rw [hd] at performed
    exact ⟨_, performed⟩
  | some dns =>
    rw [hd] at performed
    rw [performed] at sound
    exact ⟨_, _, performed, rfl, rfl, rfl, sound.serves List.getElem?_concat_length⟩

/-- A facade that is opened serves the endpoint of its handler. -/
theorem Sound.serves_openFacade (hs : s.Sound) {service : String} {index : Nat} {f : Facade}
    (h : (s.perform (.openFacade service)).1 = .facade index f) :
    (s.perform (.openFacade service)).2.Serves index f f.target.handler.endpoint := by
  have sound := (change_perform hs (.openFacade service)).sound hs
  obtain ⟨opened, hf⟩ := facadeOutcome_eq_facade h
  have after : (s.perform (.openFacade service)).2 = (s.openFacade service).2 := by
    simp only [perform, facadeOutcome_snd]
  rw [after] at sound ⊢
  -- its endpoint is its own, so it is that of the handler
  have own : f.target.endpoint = f.target.handler.endpoint := by
    rw [CallTarget.endpoint, (opens_openFacade s service).override_eq_none hs opened hf]
    rfl
  exact own ▸ sound.serves hf

/-- The facades of a service have one handler. -/
theorem Sound.handler_eq (hs : s.Sound) {f g : Facade} (hf : f ∈ s.facades) (hg : g ∈ s.facades)
    (same : f.service = g.service) : f.target.handler = g.target.handler := by
  have sf := hs.facades f hf
  have sg := hs.facades g hg
  -- both handlers are kept, and there is one for the service at the version of its policy
  obtain ⟨b, hb, _, version⟩ := sf.binding hs.resolver
  have one := (hs.resolver.serial_eq_iff sf.handler sg.handler).mpr
    ⟨by rw [sf.service, sg.service, same], by rw [version, sg.version b (same ▸ hb)]⟩
  exact hs.resolver.eq_of_serial_eq sf.handler sg.handler one

/-- In a session that has been opened and then used in any way, the settings are the ones it was
opened with. A facade that is opened goes to its handler's endpoint from then on. A facade that is
redirected goes to the region's public endpoint from then on, wherever the facade went that it was
made from; this fails, and changes nothing, exactly if its service has no public host names. The
facades of a service have one handler. -/
theorem facades_keep_their_endpoints {s₀ s : Session} (opened : s₀.Opened) (h : s₀.Leads s) :
    s.resolver.context = s₀.resolver.context ∧
    (∀ (service : String) (index : Nat) (f : Facade),
      (s.perform (.openFacade service)).1 = .facade index f →
      (s.perform (.openFacade service)).2.Serves index f f.target.handler.endpoint) ∧
    (∀ (index : Nat) (g : Facade) (region : String), s.facades[index]? = some g →
      ∃ b, s.resolver.binding g.service = .ok b ∧
        s.Redirects g region (s.perform (.facade index (.forRegion region)))
          b.descriptor.dns) ∧
    (∀ f ∈ s.facades, ∀ g ∈ s.facades, f.service = g.service →
      f.target.handler = g.target.handler) := by
  -- all of it follows from the invariant, which holds in every session that is reached
  obtain ⟨hs, kept⟩ := h.sound opened.sound
  refine ⟨kept.resolver.context, ?_, ?_, ?_⟩
  · intro service index f hf
    exact hs.serves_openFacade hf
  · intro index g region hg
    exact hs.redirects hg region
  · intro f hf g hg same
    exact hs.handler_eq hf hg same

/-! A facade that was redirected to a region with a domain of its own, and has given a capability,
is redirected to another region. -/

private def computeOpened : Session :=
  openRegistered (.ofRegion "us-east-1") [Ec2.binding .aws]
    [{ name := "tag", command := "DescribeTags" }] .unreached

private def derivations : List Operation :=
  [.openFacade "ec2", .facade 0 (.forRegion "cn-north-1"), .facade 1 (.capability "tag" .itself)]

private def derived : Session := (computeOpened.run derivations).2

private def regionsRequest (host : String) : Prepared :=
  { method := .post, url := "https://" ++ host ++ "/"
    params := [("Action", "DescribeRegions"), ("Version", "2014-06-15")] }

theorem redirected_again_goes_to_last_region :
    derived.resolver.context = .ofRegion "us-east-1" ∧
    (derived.perform (.openFacade "ec2")).2.issued (.facade 2 .describeRegions) =
      [regionsRequest "ec2.us-east-1.amazonaws.com"] ∧
    (derived.perform (.facade 1 (.forRegion "eu-west-1"))).2.issued (.facade 2 .describeRegions) =
      [regionsRequest "ec2.eu-west-1.amazonaws.com"] ∧
    ∀ f ∈ derived.facades, ∀ g ∈ derived.facades, f.service = g.service →
      f.target.handler = g.target.handler := by
  obtain ⟨context, made, redirected, one⟩ :=
    facades_keep_their_endpoints (.registered _ _ _ _) (leads_run computeOpened derivations)
  have registered : derived.resolver.binding "ec2" = .ok (Ec2.binding .aws) := rfl
  refine ⟨context, ?_, ?_, one⟩
  · obtain ⟨b, hb, serves⟩ := made "ec2" 2 _ rfl
    cases registered.symm.trans hb
    exact ((serves _ .refl).2 .describeRegions).trans rfl
  · obtain ⟨b, hb, redirects⟩ := redirected 1 _ "eu-west-1" rfl
    cases registered.symm.trans hb
    obtain ⟨f, s', performed, _, service, _, b', hb', serves⟩ := redirects
    cases congrArg Prod.snd performed
    rw [service] at hb'
    cases registered.symm.trans hb'
    exact ((serves _ .refl).2 .describeRegions).trans rfl

end Session

end CloudApi
