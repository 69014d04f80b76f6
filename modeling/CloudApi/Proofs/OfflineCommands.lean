import CloudApi.CommandLine.Run
import CloudApi.Proofs.HeldReplies
import CloudApi.Proofs.Sending
import CloudApi.Proofs.SessionRuns

/-!
# Commands and sessions

A command that prepares a request makes a session of its own, which sends nothing, and one that
decodes a reply has no session at all. This file shows that both come to what a session with a
transport would come to, whatever has been done in that session before.

A session for a provider has one service, so every handler in it speaks the provider's protocol.
The facade that it gives for this service, new or kept, is the one that the command makes, apart
from which object its handler is, and that is not seen in a request.

## Key results

- `CommandLine.openSession_eq`: what a session for a provider starts from
- `call_of_answered`: a call is answered by what its protocol decodes
- `Facade.Sound.target_anonymous`: facades of one service have the same target
- `Keeps.run`: a session keeps giving a facade of its main service
- `Keeps.openFacade`: it gives one whenever a facade can be made without a cache
- `commands_agree_with_session`: replies are decoded, and requests prepared, as in a session
-/

namespace CloudApi

/-! ### Replies -/

/-- Decoding takes the status and the body of a reply; the headers do not matter. -/
theorem Protocol.decode_status_body (p : Protocol) (command : String) (raw : RawReply) :
    p.decode command { status := raw.status, body := raw.body } = p.decode command raw := by
  unfold decode
  rw [HeldReply.result_eq (HeldReply.faithful_ofRaw _ _ _),
    HeldReply.result_eq (HeldReply.faithful_ofRaw _ _ _)]
  rfl

/-- A call that is answered comes to what the handler's protocol decodes. -/
theorem call_of_answered {t : CallTarget} {e : Envelope} {l : Link} {raw : RawReply}
    (answered : l.transport l.sent (t.prepare e) = .ok raw) :
    (t.call e l).1 = (t.handler.protocol.decode e.command raw).mapError .refused := by
  unfold CallTarget.call Link.exchange Link.send
  simp only [answered]

/-! ### Facades of one service -/

/-- Which object a handler is cannot be seen in a request. -/
theorem Capability.prepare_congr {t t' : CallTarget} (h : t'.anonymous = t.anonymous)
    (d : Definition) (q : Query) :
    (⟨d, t'⟩ : Capability).prepare q = (⟨d, t⟩ : Capability).prepare q := by
  show (Capability.mk d t'.anonymous).prepare q = (Capability.mk d t.anonymous).prepare q
  rw [h]

namespace Resolver

variable {r r' : Resolver}

/-- Handlers for the same service and version are the same apart from which object they are, also
if two resolvers of the same services have built them. -/
theorem Consistent.anonymous_eq (hr : r.Consistent) (hr' : r'.Consistent)
    (same : r'.cleared = r.cleared) {h h' : Handler} (mem : h ∈ r.handlers)
    (mem' : h' ∈ r'.handlers) (service : h'.service = h.service)
    (version : h'.version = h.version) : h'.anonymous = h.anonymous := by
  obtain ⟨b, hb, built⟩ := hr.current h mem
  obtain ⟨b', hb', built'⟩ := hr'.current h' mem'
  -- both are what would be built now, without a cache
  have bindings : r'.bindings = r.bindings := by
    show r'.cleared.bindings = r.cleared.bindings
    rw [same]
  rw [bindings, service] at hb'
  obtain rfl := Option.some.inj (hb'.symm.trans hb)
  rw [same, version] at built'
  exact Except.ok.inj (built'.symm.trans built)

end Resolver

namespace Facade

variable {r r' : Resolver} {f g : Facade}

/-- Two facades of one service that have not been redirected have the same target, apart from
which object its handler is. -/
theorem Sound.target_anonymous (hf : f.Sound r) (hr : r.Consistent) (hg : g.Sound r')
    (hr' : r'.Consistent) (same : r'.cleared = r.cleared) (service : g.service = f.service)
    (own : f.target.override = none) (own' : g.target.override = none) :
    g.target.anonymous = f.target.anonymous := by
  obtain ⟨b, hb, _, version⟩ := hf.binding hr
  have hb' : r'.binding g.service = .ok b := by
    show r'.cleared.binding g.service = .ok b
    rw [same, service]
    exact hb
  -- the policy picks one version in both sessions
  have version' : g.target.handler.version = r.versionOf b.descriptor := by
    rw [hg.version b hb']
    show r'.cleared.versionOf b.descriptor = r.cleared.versionOf b.descriptor
    rw [same]
  have handler : g.target.handler.anonymous = f.target.handler.anonymous :=
    hr.anonymous_eq hr' same hf.handler hg.handler (by rw [hg.service, hf.service, service])
      (version'.trans version.symm)
  simp only [CallTarget.anonymous, handler, own, own']

/-- A facade that has been made is for the service and the capabilities that were asked for. -/
theorem make_eq_ok {service : String} {definitions : List Definition}
    (h : make r service definitions = (.ok f, r')) :
    f.service = service ∧ f.definitions = definitions := by
  cases make_eq_iff.mp h with
  | made registered declared resolved => exact ⟨rfl, rfl⟩

/-- A facade that can be made without a cache can be made with one. -/
theorem exists_make (hr : r.Consistent) {service : String} {definitions : List Definition}
    (h : make r.cleared service definitions = (.ok g, r')) :
    ∃ f r₁, make r service definitions = (.ok f, r₁) := by
  obtain ⟨b, registered, declared, h₀, r₀, anew⟩ := exists_make_iff_declared.mp ⟨g, r', h⟩
  refine exists_make_iff_declared.mpr ⟨b, registered, declared, ?_⟩
  -- what succeeds without a cache succeeds with one
  have resolved := Resolver.resolve_cases hr service
  rw [anew] at resolved
  generalize r.resolve service = result at resolved ⊢
  cases resolved with
  | found h _ r₁ => exact ⟨h, r₁, rfl⟩

/-- The capability of a name that is defined. -/
theorem Sound.capability_of_definition (hf : f.Sound r) {name : String} {d : Definition}
    (defined : f.definition? name = some d) :
    ∃ i f', f.capability name = (.ok i, f') ∧ i.value = ⟨d, f.target⟩ ∧ f.Same f' ∧
      f'.Sound r := by
  obtain ⟨undefined, _⟩ | ⟨d', i, f', defined', found, value, same, sound⟩ := hf.capability name
  · exact nomatch undefined.symm.trans defined
  · obtain rfl := Option.some.inj (defined'.symm.trans defined)
    exact ⟨i, f', found, value, same, sound⟩

/-- A capability that is found is the one that is defined. -/
theorem Sound.definition_of_capability (hf : f.Sound r) {name : String}
    {i : Instance Capability} {f' : Facade} (found : f.capability name = (.ok i, f')) :
    ∃ d, f.definition? name = some d ∧ i.value = ⟨d, f.target⟩ := by
  obtain ⟨_, e, missing⟩ | ⟨d, i', g, defined, found', value, _⟩ := hf.capability name
  · exact nomatch missing.symm.trans found
  · cases found'.symm.trans found
    exact ⟨d, defined, value⟩

end Facade

/-! ### Sessions that keep their facade -/

namespace Session

/-- The session gives the facade of the service `name` for the capabilities in `definitions`, and
if it has kept one then that is such a facade. -/
structure Keeps (s : Session) (name : String) (definitions : List Definition) : Prop where
  defined : s.definitions = definitions
  main : ∃ main, s.main = some main ∧ main.name = name ∧
    ∀ index, main.facade = some index →
      ∃ f, s.facades[index]? = some f ∧ f.service = name ∧ f.definitions = definitions

variable {s s' : Session} {name : String} {definitions : List Definition}

/-- It does so as long as facades are only added and their capabilities built. -/
private theorem Keeps.of_continues (h : s.Keeps name definitions) (kept : s.Continues s')
    (hd : s'.definitions = s.definitions) (hm : s'.main = s.main) :
    s'.Keeps name definitions where
  defined := hd.trans h.defined
  main := by
    obtain ⟨main, found, named, facade⟩ := h.main
    refine ⟨main, hm.trans found, named, fun index hi => ?_⟩
    obtain ⟨f, hf, hs, hds⟩ := facade index hi
    obtain ⟨f', hf', same⟩ := kept.facades index f hf
    exact ⟨f', hf', same.service.trans hs, same.definitions.trans hds⟩

/-- Operations on a facade do not touch what the session keeps for its main service. -/
private theorem main_performFacade (s : Session) (index : Nat) (f : Facade)
    (request : FacadeRequest) :
    (s.performFacade index f request).2.definitions = s.definitions ∧
      (s.performFacade index f request).2.main = s.main := by
  cases request with
  | forRegion region =>
    rw [performFacade, facadeOutcome_snd, redirect]
    cases f.forRegion s.resolver region <;> exact ⟨rfl, rfl⟩
  | capability name request =>
    rcases hc : f.capability name with ⟨e | i, f'⟩
    · simp only [performFacade, hc]
      exact ⟨rfl, rfl⟩
    · simp only [performFacade, hc]
      cases request <;> exact ⟨rfl, rfl⟩
  | describeAccountAttributes names =>
    cases ha : Ec2.accountAttributes names with
    | error e => simp only [performFacade, ha, and_self]
    | ok e =>
      simp only [performFacade, ha]
      exact ⟨rfl, rfl⟩
  | _ => exact ⟨rfl, rfl⟩

private theorem main_handlerOutcome (s : Session)
    (result : Except SetupError Handler × Resolver) :
    (s.handlerOutcome result).2.definitions = s.definitions ∧
      (s.handlerOutcome result).2.main = s.main := by
  obtain ⟨e | h, resolver⟩ := result <;> exact ⟨rfl, rfl⟩

/-- What is opened is of the kind that the session keeps. -/
private theorem Keeps.of_openFacade (h : s.Keeps name definitions) (service : String) :
    (s.openFacade service).2.Keeps name definitions := by
  obtain ⟨main, found, named, facade⟩ := h.main
  unfold openFacade makeFacade
  simp only [found]
  cases hk : main.facade with
  | some kept => exact h
  | none =>
    rcases made : Facade.make s.resolver main.name s.definitions with ⟨e | f, resolver⟩
    · -- nothing has been kept, so the next call tries again
      exact ⟨h.defined, main, rfl, named, facade⟩
    · obtain ⟨hs, hd⟩ := Facade.make_eq_ok made
      refine ⟨h.defined, _, rfl, named, ?_⟩
      intro index hi
      obtain rfl := Option.some.inj hi
      exact ⟨f, List.getElem?_concat_length, hs.trans named, hd.trans h.defined⟩

/-- Every operation leaves the main service and its facade in place. -/
theorem Keeps.perform (hs : s.Sound) (h : s.Keeps name definitions) (o : Operation) :
    (s.perform o).2.Keeps name definitions := by
  have kept := (change_perform hs o).continues hs
  -- only opening a facade changes what is kept for the main service
  cases o with
  | binding service => exact h
  | endpoint service region => exact h
  | resolve service =>
    obtain ⟨hd, hm⟩ := main_handlerOutcome s (s.resolver.resolve service)
    exact h.of_continues kept hd hm
  | resolveVersion service version =>
    obtain ⟨hd, hm⟩ := main_handlerOutcome s (s.resolver.resolveVersion service version)
    exact h.of_continues kept hd hm
  | facade index request =>
    cases hf : s.facades[index]? with
    | some f =>
      obtain ⟨hd, hm⟩ := main_performFacade s index f request
      simp only [Session.perform, hf] at kept ⊢
      exact h.of_continues kept hd hm
    | none =>
      simp only [Session.perform, hf]
      exact h
  | openFacade service =>
    rw [Session.perform, facadeOutcome_snd]
    exact h.of_openFacade service

/-- So do all operations in order. -/
theorem Keeps.run (hs : s.Sound) (h : s.Keeps name definitions) (operations : List Operation) :
    (s.run operations).2.Keeps name definitions := by
  induction operations generalizing s with
  | nil => exact h
  | cons o rest ih => exact ih ((change_perform hs o).sound hs) (h.perform hs o)

/-- A session that keeps its facade gives it whenever such a facade could be made without a cache.
Nothing is sent for it, and it goes to its handler's own endpoint. -/
theorem Keeps.openFacade (hs : s.Sound) (h : s.Keeps name definitions) {g : Facade}
    {r : Resolver} (possible : Facade.make s.resolver.cleared name definitions = (.ok g, r))
    (service : String) :
    ∃ index f s', s.perform (.openFacade service) = (.facade index f, s') ∧
      s'.facades[index]? = some f ∧ s'.link = s.link ∧ f.service = name ∧
      f.definitions = definitions ∧ f.target.override = none := by
  obtain ⟨main, found, named, facade⟩ := h.main
  simp only [Session.perform, Session.openFacade, found]
  cases hk : main.facade with
  -- the one that is kept has not been redirected
  | some index =>
    obtain ⟨f, hf, service, hd⟩ := facade index hk
    obtain ⟨f', hf', own⟩ := hs.main main index found hk
    obtain rfl := Option.some.inj (hf'.symm.trans hf)
    simp only [facadeOutcome, hf]
    exact ⟨index, f', s, rfl, hf, rfl, service, hd, own⟩
  -- a new one can be made, since one could be without a cache
  | none =>
    obtain ⟨f, resolver, made⟩ := Facade.exists_make hs.resolver possible
    obtain ⟨service, hd⟩ := Facade.make_eq_ok made
    have own := (sound_make hs.resolver made).2.2
    rw [← named, ← h.defined] at made
    simp only [makeFacade, addFacade, made, facadeOutcome, List.getElem?_concat_length]
    exact ⟨_, f, _, rfl, List.getElem?_concat_length, rfl, service, hd, own⟩

end Session

/-! ### Sessions for a provider -/

namespace CommandLine

open Session

/-- The service that a provider's sessions are for. -/
def mainBinding : Provider → Binding
  | .cloudStack => CloudStack.binding
  | provider => Ec2.binding provider

/-- The capabilities of this service. -/
def mainDefinitions : Provider → List Definition
  | .cloudStack => CloudStack.definitions
  | _ => Ec2.definitions

/-- The session that is opened for settings that have been checked. -/
def newSession (context : Context) (transport : Transport) : Session where
  resolver := .ofBindings context [mainBinding context.provider]
  definitions := mainDefinitions context.provider
  main := some { name := defaultService context.provider }
  link := { transport }

/-- The service of a provider's sessions speaks the protocol in which the provider's replies are
decoded. -/
theorem protocol_mainBinding (provider : Provider) :
    (mainBinding provider).protocol = Protocol.ofProvider provider := by
  cases provider <;> rfl

/-- Checking the region keeps the provider. -/
theorem checkRegion_eq_ok {context checked : Context} (h : checkRegion context = .ok checked) :
    checked.provider = context.provider := by
  unfold checkRegion at h
  split at h
  · next region _ _ =>
    cases hv : Ec2.validateRegion region with
    | error e =>
      simp only [hv] at h
      exact nomatch h
    | ok region =>
      simp only [hv] at h
      rw [← Except.ok.inj h]
      rfl
  · rw [Except.ok.inj h]

/-- A session for a provider is opened exactly if the region passes its check. -/
theorem openSession_eq (context : Context) (transport : Transport) :
    openSession context transport = (checkRegion context).map (newSession · transport) := by
  unfold openSession
  cases hp : context.provider with
  | cloudStack =>
    -- only regions of the public cloud are checked
    have unchecked : checkRegion context = .ok context := by
      unfold checkRegion
      rw [hp]
    rw [unchecked]
    simp only [Except.map, newSession, hp]
    rfl
  | aws | eucalyptus =>
    simp only [openCompute, hp]
    cases hc : checkRegion context with
    | error e => rfl
    | ok checked =>
      have provider := (checkRegion_eq_ok hc).trans hp
      dsimp only [bind, Except.bind, Except.map, newSession]
      rw [provider]
      rfl

/-- A session that has just been opened for a provider. -/
theorem openSession_eq_ok {context : Context} {transport : Transport} {s : Session}
    (h : openSession context transport = .ok s) :
    ∃ checked, checkRegion context = .ok checked ∧ checked.provider = context.provider ∧
      s = newSession checked transport := by
  rw [openSession_eq] at h
  obtain ⟨checked, hc, hs⟩ := map_eq_ok.mp h
  exact ⟨checked, hc, checkRegion_eq_ok hc, hs.symm⟩

theorem sound_openSession {context : Context} {transport : Transport} {s : Session}
    (h : openSession context transport = .ok s) : s.Sound := by
  unfold openSession at h
  split at h
  · exact (Opened.compute h).sound
  · exact (Opened.compute h).sound
  · exact Except.ok.inj h ▸ (Opened.query context transport).sound

theorem keeps_newSession (context : Context) (transport : Transport) :
    (newSession context transport).Keeps (defaultService context.provider)
      (mainDefinitions context.provider) where
  defined := rfl
  main := ⟨_, rfl, rfl, fun _ h => nomatch h⟩

/-- There is one service only. -/
theorem binding_newSession {context : Context} {transport : Transport} {service : String}
    {b : Binding} (h : (newSession context transport).resolver.binding service = .ok b) :
    b = mainBinding context.provider := by
  by_cases hs : service = (mainBinding context.provider).descriptor.name
  · subst hs
    have registered : (newSession context transport).resolver.bindings.get?
        (mainBinding context.provider).descriptor.name = some (mainBinding context.provider) :=
      Keyed.get?_set_self _ _ _
    rw [Resolver.binding, registered] at h
    exact (Except.ok.inj h).symm
  · have missing : (newSession context transport).resolver.bindings.get? service = none :=
      (Keyed.get?_set_of_ne hs).trans (Keyed.get?_nil service)
    rw [Resolver.binding, missing] at h
    cases h

/-- Whatever is done in a session for a provider, its handlers speak the protocol in which the
provider's replies are decoded. -/
theorem protocol_of_mem {context : Context} {transport : Transport} {s₀ s : Session}
    (opened : openSession context transport = .ok s₀) (h : s₀.Leads s) {handler : Handler}
    (mem : handler ∈ s.resolver.handlers) :
    handler.protocol = Protocol.ofProvider context.provider := by
  obtain ⟨sound, continues⟩ := h.sound (sound_openSession opened)
  obtain ⟨checked, _, provider, rfl⟩ := openSession_eq_ok opened
  obtain ⟨b, hb, protocol⟩ := sound.resolver.binding_of_mem mem
  rw [continues.resolver.binding] at hb
  rw [protocol, binding_newSession hb, protocol_mainBinding, provider]

/-! ### Prepared and sent -/

/-- A request is prepared by the facade that the session can make, for the query that the arguments
give. -/
theorem prepareRequest_eq_ok {s : Session} {service capability : String}
    {ids filters lists : List String} {r : Prepared}
    (h : prepareRequest s service capability ids filters lists = .ok r) :
    ∃ f resolver i f' q, Facade.make s.resolver service s.definitions = (.ok f, resolver) ∧
      f.capability capability = (.ok i, f') ∧
      parseQuery i.value.definition ids filters lists = .ok q ∧ i.value.prepare q = .ok r := by
  obtain ⟨f, made, h⟩ := bind_eq_ok.mp h
  obtain ⟨i, found, h⟩ := bind_eq_ok.mp h
  obtain ⟨q, parsed, h⟩ := bind_eq_ok.mp h
  exact ⟨f, _, i, _, q, Prod.ext (mapError_eq_ok.mp made) rfl,
    Prod.ext (mapError_eq_ok.mp found) rfl, parsed, mapError_eq_ok.mp h⟩

/-- Describing in a session what the arguments ask for sends `r` and nothing else: the session's
facade is opened and asked for the capability, the arguments are read with the definition of the
capability that it gives, and the query is sent. -/
def DescribingSends (s : Session) (service capability : String) (ids filters lists : List String)
    (r : Prepared) : Prop :=
  ∃ index f s₁ i s₂ q,
    s.perform (.openFacade service) = (.facade index f, s₁) ∧
    s₁.perform (.facade index (.capability capability .itself)) = (.capability i, s₂) ∧
    parseQuery i.value.definition ids filters lists = .ok q ∧
    (s₂.perform (.facade index (.capability capability (.describe q)))).2.link.sent =
      s.link.sent ++ [r]

/-- A request that can be prepared without a cache is what a session sends that keeps its
facade. -/
theorem describingSends_of_prepareRequest {s dry : Session} {name capability : String}
    {ids filters lists : List String} {r : Prepared} (hs : s.Sound)
    (keeps : s.Keeps name dry.definitions) (hdry : dry.resolver.Consistent)
    (same : dry.resolver = s.resolver.cleared)
    (prepared : prepareRequest dry name capability ids filters lists = .ok r) (service : String) :
    DescribingSends s service capability ids filters lists r := by
  obtain ⟨g, resolver, i, _, q, made, found, parsed, ready⟩ := prepareRequest_eq_ok prepared
  obtain ⟨grown, hg, ownDry⟩ := sound_make hdry made
  obtain ⟨serviceDry, definitionsDry⟩ := Facade.make_eq_ok made
  obtain ⟨index, f, s₁, opened, hf, link, serviceLive, definitionsLive, own⟩ :=
    keeps.openFacade hs (same ▸ made) service
  -- the facade of the session and the one that the command makes have the same target
  have change := change_perform hs (.openFacade service)
  rw [opened] at change
  have hs₁ := change.sound hs
  have sound := hs₁.facades f (List.mem_of_getElem? hf)
  have cleared : s₁.resolver.cleared = resolver.cleared := by
    rw [(change.continues hs).resolver.same, grown.same, same]
    rfl
  have target : f.target.anonymous = g.target.anonymous :=
    hg.target_anonymous grown.consistent sound hs₁.resolver cleared
      (serviceLive.trans serviceDry.symm) ownDry own
  -- so have their capabilities
  obtain ⟨d, defined, value⟩ := hg.definition_of_capability found
  have definedLive : f.definition? capability = some d := by
    rw [← defined]
    simp only [Facade.definition?, definitionsLive, definitionsDry]
  obtain ⟨i₁, f₁, found₁, value₁, same₁, sound₁⟩ := sound.capability_of_definition definedLive
  obtain ⟨i₂, f₂, found₂, value₂, _⟩ :=
    sound₁.capability_of_definition ((same₁.definition? capability).trans definedLive)
  have ready₂ : i₂.value.prepare q = .ok r := by
    rw [value₂, same₁.target, Capability.prepare_congr target, ← value]
    exact ready
  refine ⟨index, f, s₁, i₁, s₁.setFacade index f₁, q, opened, ?_, ?_, ?_⟩
  · simp only [Session.perform, hf, performFacade, found₁, performCapability]
  · rw [value₁, ← parsed, value]
  · have stored : (s₁.setFacade index f₁).facades[index]? = some f₁ :=
      List.getElem?_set_self (List.getElem?_eq_some_iff.mp hf).1
    simp only [Session.perform, stored, performFacade, found₂, performCapability, received]
    show (i₂.value.describe q s₁.link).2.sent = s.link.sent ++ [r]
    rw [describe_link_of_prepare ready₂, link]

/-- A session for a provider, after any operations, and the commands for the same provider and
settings. A call that is answered, through a handler of the session or a facade, comes to what the
command makes of the reply's status and body. A request that the command can prepare is the one
request that describing the same sends in the session. -/
theorem commands_agree_with_session {context : Context} {transport : Transport} {s₀ : Session}
    (opened : openSession context transport = .ok s₀) (operations : List Operation) :
    let s := (s₀.run operations).2
    (∀ (t : CallTarget) (e : Envelope) (raw : RawReply), t.handler ∈ s.resolver.handlers →
      s.link.transport s.link.sent (t.prepare e) = .ok raw →
      (t.call e s.link).1 =
        (decodeReply context.provider e.command raw.status raw.body).mapError .refused) ∧
    (∀ (index : Nat) (f : Facade) (e : Envelope) (raw : RawReply),
      s.facades[index]? = some f →
      s.link.transport s.link.sent (f.target.prepare e) = .ok raw →
      (s.perform (.facade index (.call e))).1 =
        .ofExcept .answer
          ((decodeReply context.provider e.command raw.status raw.body).mapError .refused)) ∧
    (∀ (dry : Session) (capability : String) (ids filters lists : List String) (r : Prepared),
      openSession context dryRun = .ok dry →
      prepareRequest dry (defaultService dry.resolver.context.provider) capability ids filters
        lists = .ok r →
      ∀ service, DescribingSends s service capability ids filters lists r) := by
  intro s
  have leads : s₀.Leads s := leads_run s₀ operations
  have sound₀ := sound_openSession opened
  obtain ⟨sound, continues⟩ := leads.sound sound₀
  -- all handlers of the session speak the protocol in which the command decodes
  have calls (t : CallTarget) (e : Envelope) (raw : RawReply)
      (mem : t.handler ∈ s.resolver.handlers)
      (answered : s.link.transport s.link.sent (t.prepare e) = .ok raw) :
      (t.call e s.link).1 =
        (decodeReply context.provider e.command raw.status raw.body).mapError .refused := by
    rw [call_of_answered answered, protocol_of_mem opened leads mem, decodeReply,
      Protocol.decode_status_body]
  refine ⟨calls, ?_, ?_⟩
  · intro index f e raw hf answered
    have mem := (sound.facades f (List.mem_of_getElem? hf)).handler
    simp only [Session.perform, hf, performFacade, sendTo, received]
    rw [calls f.target e raw mem answered]
  · intro dry capability ids filters lists r openedDry prepared service
    -- the two sessions have been opened with the same settings
    obtain ⟨checked, hc, _, rfl⟩ := openSession_eq_ok opened
    obtain ⟨checked', hc', _, rfl⟩ := openSession_eq_ok openedDry
    obtain rfl := Except.ok.inj (hc'.symm.trans hc)
    have keeps := (keeps_newSession checked' transport).run sound₀ operations
    exact describingSends_of_prepareRequest sound keeps (sound_openSession openedDry).resolver
      continues.resolver.same.symm prepared service

/-! A session for a region of the public cloud that is written in an unusual way, with a facade
that has been made and redirected, over a link that answers everything alike. -/

private def unavailable : RawReply :=
  { status := 503, headers := [("Retry-After", "1")], body := "Service Unavailable" }

private def settingsInUse : Context := .ofRegion "us_east_1"

private def inUse : Session := newSession (.ofRegion "us-east-1") fun _ _ => .ok unavailable

private def offline : Session := newSession (.ofRegion "us-east-1") dryRun

private def usedBefore : List Operation :=
  [.openFacade "ec2", .facade 0 (.forRegion "cn-north-1"), .facade 1 .describeRegions]

private def tagsAsPrepared : Prepared :=
  { method := .post, url := "https://ec2.us-east-1.amazonaws.com/"
    params :=
      [("Action", "DescribeTags"), ("Version", "2014-06-15"), ("Filter.1.Name", "key"),
       ("Filter.1.Value.1", "Name"), ("Filter.1.Value.2", "Stage")] }

theorem tags_are_described_as_prepared :
    let s := (inUse.run usedBefore).2
    openSession settingsInUse (fun _ _ => .ok unavailable) = .ok inUse ∧
    s.link.sent.length = 1 ∧
    (s.perform (.facade 1 (.call Ec2.describeRegions))).1 =
      .ofExcept .answer ((decodeReply .aws "DescribeRegions" 503 "Service Unavailable").mapError
        .refused) ∧
    prepareRequest offline "ec2" "tag" [] ["key=Name, Stage"] [] = .ok tagsAsPrepared ∧
    DescribingSends s "ec2" "tag" [] ["key=Name, Stage"] [] tagsAsPrepared := by
  have opened : openSession settingsInUse (fun _ _ => .ok unavailable) = .ok inUse := rfl
  have prepared : prepareRequest offline "ec2" "tag" [] ["key=Name, Stage"] [] =
      .ok tagsAsPrepared := rfl
  obtain ⟨_, calls, requests⟩ := commands_agree_with_session opened usedBefore
  refine ⟨opened, rfl, ?_, prepared, ?_⟩
  · exact calls 1 _ Ec2.describeRegions unavailable rfl rfl
  · exact requests offline "tag" [] ["key=Name, Stage"] [] tagsAsPrepared rfl prepared "ec2"

end CommandLine

end CloudApi
