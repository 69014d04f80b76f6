import CloudApi.Proofs.FacadeRequests
import CloudApi.Proofs.OfflineCommands

/-!
# Spellings of a region

A session reads its region in any accepted spelling and goes to the host of the region that is
meant. A facade that is redirected puts the text into the host name as it stands. The two agree on
the usual spelling and on no other, since no two texts make the same host name.

## Key results

- `Ec2.validateRegion_eq_ok`: which spellings are accepted
- `Ec2.hostFor_injective`: the host name tells the region, whatever text it is
- `redirects_compute`: where a facade goes that is redirected
- `endpoint_of_mem`, `serves_region`: where a session of a region goes
- `redirected_as_opened_iff`: when the two go to the same host
-/

namespace CloudApi

namespace Ec2

/-! ### Accepted spellings -/

/-- A text is accepted if its usual spelling is that of a known region, and then means it. -/
theorem validateRegion_eq_ok {text region : String} :
    validateRegion text = .ok region ↔ normalizeRegion text = region ∧ region ∈ regions := by
  unfold validateRegion
  split
  · next known =>
    rw [Except.ok.injEq]
    constructor
    · intro same
      exact ⟨same, same ▸ known⟩
    · exact And.left
  · next unknown =>
    constructor
    · intro h
      cases h
    · intro meant
      exact absurd (meant.1 ▸ meant.2) unknown

/-- The known regions are in their usual spelling. -/
theorem normalizeRegion_of_mem : ∀ region ∈ regions, normalizeRegion region = region := by
  decide

/-- So an accepted text is in its usual spelling exactly if it is a known region itself. -/
theorem normalizeRegion_eq_self_iff {text : String} (accepted : normalizeRegion text ∈ regions) :
    normalizeRegion text = text ↔ text ∈ regions := by
  constructor
  · intro usual
    exact usual ▸ accepted
  · exact normalizeRegion_of_mem text

/-! ### Host names -/

theorem suffixFor_dns (region : String) :
    dns.suffixFor region = if region ∈ chinaRegions then chinaSuffix else defaultSuffix := by
  by_cases h : region = "cn-north-1"
  · subst h
    rfl
  · simp [DnsPattern.suffixFor, dns, chinaRegions, Keyed.get?, h, Ne.symm h]

/-- The host name of a region, as long as one is given. -/
theorem hostFor_dns {region : String} (given : region ≠ "") :
    dns.hostFor (some region) = "ec2." ++ (region ++ ("." ++ dns.suffixFor region)) := by
  rw [DnsPattern.hostFor, if_neg given, String.append_assoc, String.append_assoc,
    String.append_assoc]
  exact String.append_assoc.symm

/-- Without a region there is a label less. -/
private theorem hostFor_dns_ne_bare {region : String} (given : region ≠ "") :
    dns.hostFor (some region) ≠ dns.hostFor (some "") := by
  intro same
  -- with a region there is one more point, and the suffix is at least as long
  have lengths := congrArg String.length same
  rw [hostFor_dns given, String.length_append, String.length_append, String.length_append]
    at lengths
  have suffix : defaultSuffix.length ≤ (dns.suffixFor region).length := by
    rw [suffixFor_dns]
    split <;> decide
  have bare : (dns.hostFor (some "")).length = 4 + defaultSuffix.length := by decide
  have point : ".".length = 1 := rfl
  have host : "ec2.".length = 4 := rfl
  omega

/-- The region can be read off what follows the service's own label. -/
private theorem region_of_suffixed {r r' : String}
    (same : r ++ ("." ++ dns.suffixFor r) = r' ++ ("." ++ dns.suffixFor r')) : r = r' := by
  -- the two suffixes end differently
  have apart (a b : String) : a ++ ("." ++ chinaSuffix) ≠ b ++ ("." ++ defaultSuffix) := by
    intro h
    have last := congrArg (·.toList.getLast?) h
    simp [chinaSuffix, defaultSuffix] at last
  rw [suffixFor_dns, suffixFor_dns] at same
  -- both are the Chinese region, or neither, or the ends of the hosts differ
  by_cases china : r ∈ chinaRegions
  · by_cases china' : r' ∈ chinaRegions
    · rw [List.mem_singleton.mp china, List.mem_singleton.mp china']
    · rw [if_pos china, if_neg china'] at same
      exact absurd same (apart r r')
  · by_cases china' : r' ∈ chinaRegions
    · rw [if_neg china, if_pos china'] at same
      exact absurd same.symm (apart r' r)
    · rw [if_neg china, if_neg china', String.append_left_inj] at same
      exact same

/-- Another spelling has the suffix of its region unless the region has one of its own. -/
theorem suffixFor_eq_iff (text : String) :
    dns.suffixFor text = dns.suffixFor (normalizeRegion text) ↔
      (normalizeRegion text ∈ chinaRegions → text ∈ regions) := by
  -- only the usual spelling of the Chinese region is looked up with its own suffix
  by_cases usual : text ∈ regions
  · rw [normalizeRegion_of_mem text usual]
    simp [usual]
  · have other : text ∉ chinaRegions := by
      intro china
      rw [List.mem_singleton.mp china] at usual
      exact usual (by decide)
    rw [suffixFor_dns, suffixFor_dns, if_neg other]
    by_cases china : normalizeRegion text ∈ chinaRegions
    · rw [if_pos china]
      simp [usual, china, chinaSuffix, defaultSuffix]
    · rw [if_neg china]
      simp [china]

/-- No two texts make the same host name. -/
theorem hostFor_injective : Function.Injective fun region => dns.hostFor (some region) := by
  intro r r' same
  dsimp only at same
  -- the empty region has a host of its own, without the point
  by_cases given : r = ""
  · by_cases given' : r' = ""
    · rw [given, given']
    · exact absurd (given ▸ same.symm) (hostFor_dns_ne_bare given')
  · by_cases given' : r' = ""
    · exact absurd (given' ▸ same) (hostFor_dns_ne_bare given)
    · rw [hostFor_dns given, hostFor_dns given', String.append_right_inj] at same
      exact region_of_suffixed same

end Ec2

/-! ### Where requests go -/

namespace Resolver

/-- A handler that is built has the endpoint of its service. -/
theorem endpoint_of_build {r : Resolver} {b : Binding} {version : Version} {h : Handler}
    (built : r.build b version = .ok h) : r.endpoint b.descriptor none = .ok h.endpoint := by
  unfold build at built
  obtain ⟨_, _, built⟩ := bind_eq_ok.mp built
  obtain ⟨endpoint, located, built⟩ := bind_eq_ok.mp built
  cases built
  exact located

/-- Where services are located by name, a service goes to its host in the session's region. -/
theorem endpoint_of_publicDns {r : Resolver} {d : Descriptor} {dns : DnsPattern}
    (style : r.context.provider.endpointStyle = .publicDns) (known : d.dns = some dns) :
    r.endpoint d none = .ok ⟨dns.hostFor r.context.region⟩ := by
  simp only [endpoint, style, publicEndpoint, known]

end Resolver

namespace Session

open CommandLine (newSession)

theorem openSession_eq_openCompute {context : Context} (transport : Transport)
    (other : context.provider ≠ .cloudStack) :
    CommandLine.openSession context transport = openCompute context transport := by
  unfold CommandLine.openSession
  cases hp : context.provider with
  | cloudStack => exact absurd hp other
  | aws => rfl
  | eucalyptus => rfl

/-- A session for the compute service has no other service. -/
theorem openCompute_eq_ok {context : Context} {transport : Transport} {s : Session}
    (h : openCompute context transport = .ok s) :
    ∃ checked, checkRegion context = .ok checked ∧ checked.provider = context.provider ∧
      context.provider ≠ .cloudStack ∧ s = newSession checked transport := by
  have other : context.provider ≠ .cloudStack := by
    intro cloud
    unfold openCompute at h
    rw [if_pos cloud] at h
    cases h
  rw [← openSession_eq_openCompute transport other] at h
  obtain ⟨checked, passed, provider, opened⟩ := CommandLine.openSession_eq_ok h
  exact ⟨checked, passed, provider, other, opened⟩

/-- In a session for the compute service a facade is redirected to the host that is named after the
text as it stands. -/
theorem redirects_compute {context : Context} {transport : Transport} {s₀ s : Session}
    (opened : openCompute context transport = .ok s₀) (used : s₀.Leads s) {index : Nat}
    {g : Facade} (made : s.facades[index]? = some g) (text : String) :
    s.Redirects g text (s.perform (.facade index (.forRegion text))) (some Ec2.dns) := by
  obtain ⟨sound, continues⟩ := used.sound (Opened.compute opened).sound
  -- the service of the facade is still bound as it was when the session was made
  obtain ⟨b, found, redirects⟩ := sound.redirects made text
  obtain ⟨checked, _, provider, other, rfl⟩ := openCompute_eq_ok opened
  rw [continues.resolver.binding] at found
  -- and a session for computing has one binding, that of the provider
  have known : b.descriptor = Ec2.descriptor := by
    rw [CommandLine.binding_newSession found]
    cases hp : checked.provider with
    | cloudStack => exact absurd (provider.symm.trans hp) other
    | aws => rfl
    | eucalyptus => rfl
  rw [known] at redirects
  exact redirects

/-- A session of a region is opened for the usual spelling of the text, if that is a known
region. -/
theorem openCompute_of_region {context : Context} {transport : Transport} {text : String}
    {s : Session} (aws : context.provider = .aws) (asked : context.region = some text)
    (opened : openCompute context transport = .ok s) :
    Ec2.normalizeRegion text ∈ Ec2.regions ∧
      s = newSession (context.withRegion (Ec2.normalizeRegion text)) transport := by
  obtain ⟨checked, passed, _, _, rfl⟩ := openCompute_eq_ok opened
  simp only [checkRegion, aws, asked] at passed
  -- a region that is refused fails the opening
  cases accepted : Ec2.validateRegion text with
  | error e =>
    simp only [accepted] at passed
    cases passed
  | ok region =>
    simp only [accepted] at passed
    cases passed
    obtain ⟨rfl, known⟩ := Ec2.validateRegion_eq_ok.mp accepted
    exact ⟨known, rfl⟩

/-- Every spelling of a known region is accepted. -/
theorem exists_openCompute_iff {context : Context} {text : String} (transport : Transport)
    (aws : context.provider = .aws) (asked : context.region = some text) :
    (∃ s, openCompute context transport = .ok s) ↔ Ec2.normalizeRegion text ∈ Ec2.regions := by
  constructor
  · intro possible
    obtain ⟨s, opened⟩ := possible
    exact (openCompute_of_region aws asked opened).1
  · intro known
    have accepted := Ec2.validateRegion_eq_ok.mpr ⟨rfl, known⟩
    have passed : checkRegion context = .ok (context.withRegion (Ec2.normalizeRegion text)) := by
      simp only [checkRegion, aws, asked, accepted]
    -- the provider has sessions for computing, and nothing else is checked
    have other : context.provider ≠ .cloudStack := by simp [aws]
    rw [← openSession_eq_openCompute transport other, CommandLine.openSession_eq, passed]
    exact ⟨_, rfl⟩

variable {context : Context} {transport : Transport} {region : String}

/-- In a session of a region every handler goes to the region's public host. -/
theorem endpoint_of_mem {s : Session} (sound : s.Sound)
    (kept : (newSession context transport).Continues s) (aws : context.provider = .aws)
    (located : context.region = some region) {h : Handler} (mem : h ∈ s.resolver.handlers) :
    h.endpoint = ⟨Ec2.dns.hostFor (some region)⟩ := by
  -- by the invariant, a handler that is kept is the one that would be built now
  obtain ⟨b, registered, built⟩ := sound.resolver.current h mem
  have found : s.resolver.binding h.service = .ok b := by
    unfold Resolver.binding
    rw [registered]
  rw [kept.resolver.binding] at found
  have known : b.descriptor.dns = some Ec2.dns := by
    rw [CommandLine.binding_newSession found, aws]
    rfl
  -- the settings are those that the session has been opened with
  have settings : s.resolver.cleared.context = context := kept.resolver.context
  have endpoint : s.resolver.cleared.endpoint b.descriptor none = .ok h.anonymous.endpoint :=
    Resolver.endpoint_of_build built
  rw [Resolver.endpoint_of_publicDns (by rw [settings, aws]; rfl) known, settings, located]
    at endpoint
  exact (Except.ok.inj endpoint).symm

/-- A facade of the compute service can be made in it. -/
private theorem exists_makeCompute (context : Context) (transport : Transport)
    (aws : context.provider = .aws) (located : context.region = some region) :
    ∃ g r, Facade.make (newSession context transport).resolver.cleared Ec2.service
      Ec2.definitions = (.ok g, r) := by
  obtain ⟨provider, _, urls, credentials⟩ := context
  cases aws
  cases located
  exact ⟨_, _, rfl⟩

/-- Whatever has been done in a session of a region, it gives a facade of the compute service, and
that one goes from then on to the host of the region in its usual spelling. -/
theorem serves_region {text : String} {s₀ : Session} (aws : context.provider = .aws)
    (asked : context.region = some text) (opened : openCompute context transport = .ok s₀)
    (operations : List Operation) (service : String) :
    let s := (s₀.run operations).2
    ∃ index f s', s.perform (.openFacade service) = (.facade index f, s') ∧
      s'.Serves index f ⟨Ec2.dns.hostFor (some (Ec2.normalizeRegion text))⟩ := by
  intro s
  have fresh : s₀.Sound := (Opened.compute opened).sound
  obtain ⟨_, rfl⟩ := openCompute_of_region aws asked opened
  obtain ⟨sound, continues⟩ := (leads_run _ operations).sound fresh
  -- the session keeps a facade of the main service, or it can make one
  have keeps : s.Keeps (CommandLine.defaultService context.provider)
      (CommandLine.mainDefinitions context.provider) :=
    (CommandLine.keeps_newSession _ transport).run fresh operations
  obtain ⟨g, r, possible⟩ := exists_makeCompute (context.withRegion _) transport aws rfl
  rw [← continues.resolver.same] at possible
  rw [aws] at keeps
  obtain ⟨index, f, s', performed, found, _⟩ := keeps.openFacade sound possible service
  refine ⟨index, f, s', performed, ?_⟩
  have serves := sound.serves_openFacade (congrArg Prod.fst performed)
  have change := change_perform sound (.openFacade service)
  rw [performed] at serves change
  -- the handler of what is opened is one of the session's
  have kept := (change.sound sound).facades f (List.mem_of_getElem? found)
  have endpoint : f.target.handler.endpoint =
      ⟨Ec2.dns.hostFor (some (Ec2.normalizeRegion text))⟩ :=
    endpoint_of_mem (change.sound sound) (continues.trans (change.continues sound)) aws rfl
      kept.handler
  exact endpoint ▸ serves

/-- A session is opened for a text exactly if the usual spelling of the text is a known region. A
facade that is redirected with the text, in any session for the compute service and however that has
been used, goes from then on to the host that is named after the text as it stands. The facade that
a session gives that has been opened with the text goes to the host that is named after the usual
spelling. The two are one host exactly if the text is a known region itself; and for a region with a
domain of its own, the redirected facade has that domain only then. -/
theorem redirected_as_opened_iff {context₀ : Context} {transport₀ : Transport} {s₀ s : Session}
    {index : Nat} {g : Facade} {text : String}
    (opened₀ : openCompute context₀ transport₀ = .ok s₀) (used : s₀.Leads s)
    (made : s.facades[index]? = some g) (transport : Transport)
    (aws : context.provider = .aws) (asked : context.region = some text) :
    let redirected : Endpoint := ⟨Ec2.dns.hostFor (some text)⟩
    let opened : Endpoint := ⟨Ec2.dns.hostFor (some (Ec2.normalizeRegion text))⟩
    ((∃ t, openCompute context transport = .ok t) ↔ Ec2.normalizeRegion text ∈ Ec2.regions) ∧
    (∃ f s', s.perform (.facade index (.forRegion text)) = (.facade s.facades.length f, s') ∧
      s'.Serves s.facades.length f redirected) ∧
    ∀ t, openCompute context transport = .ok t →
      (∀ operations service, ∃ i f t',
        (t.run operations).2.perform (.openFacade service) = (.facade i f, t') ∧
          t'.Serves i f opened) ∧
      (redirected = opened ↔ text ∈ Ec2.regions) ∧
      (Ec2.dns.suffixFor text = Ec2.dns.suffixFor (Ec2.normalizeRegion text) ↔
        (Ec2.normalizeRegion text ∈ Ec2.chinaRegions → text ∈ Ec2.regions)) := by
  intro redirected opened
  refine ⟨exists_openCompute_iff transport aws asked, ?_, ?_⟩
  · obtain ⟨f, s', performed, _, _, _, serves⟩ := redirects_compute opened₀ used made text
    exact ⟨f, s', performed, serves⟩
  · intro t ht
    obtain ⟨accepted, _⟩ := openCompute_of_region aws asked ht
    refine ⟨serves_region aws asked ht, ?_, Ec2.suffixFor_eq_iff text⟩
    -- hosts differ whenever their regions do
    have hosts : redirected = opened ↔ text = Ec2.normalizeRegion text := by
      rw [Endpoint.mk.injEq]
      exact Ec2.hostFor_injective.eq_iff
    rw [hosts, ← Ec2.normalizeRegion_eq_self_iff accepted]
    exact eq_comm

/-! The compute service of a session, redirected to a region with a domain of its own. -/

private def inRegion (text : String) : Session := newSession (.ofRegion text) .unreached

/-- The endpoints of the targets that have been asked for. -/
private def endpoints (outcomes : List Outcome) : List Endpoint :=
  outcomes.filterMap fun
    | .target t => some t.endpoint
    | _ => none

theorem usual_spelling_is_redirected_as_opened :
    let host : Endpoint := ⟨"ec2.cn-north-1.amazonaws.com.cn"⟩
    let s := ((inRegion "us-east-1").run [.openFacade "ec2"]).2
    (∃ f s', s.perform (.facade 0 (.forRegion "cn-north-1")) = (.facade 1 f, s') ∧
      s'.Serves 1 f host) ∧
    ∃ i f t, (inRegion "cn-north-1").perform (.openFacade "ec2") = (.facade i f, t) ∧
      t.Serves i f host := by
  intro host s
  have opened : openCompute (.ofRegion "us-east-1") .unreached = .ok (inRegion "us-east-1") := rfl
  have opened' : openCompute (.ofRegion "cn-north-1") .unreached = .ok (inRegion "cn-north-1") :=
    rfl
  have used : (inRegion "us-east-1").Leads s := leads_run _ _
  have kept : ∃ g, s.facades[0]? = some g := ⟨_, rfl⟩
  have aws : (Context.ofRegion "cn-north-1").provider = .aws := rfl
  have asked : (Context.ofRegion "cn-north-1").region = some "cn-north-1" := rfl
  obtain ⟨g, made⟩ := kept
  obtain ⟨_, redirects, opens⟩ := redirected_as_opened_iff opened used made .unreached aws asked
  obtain ⟨serves, same, _⟩ := opens _ opened'
  -- in its usual spelling a region is redirected to the host that it is opened at
  rw [same.mpr (by decide)] at redirects
  exact ⟨redirects, serves [] "ec2"⟩

/-- Another spelling of this region is accepted and means it, but with it the facade is redirected
to a host that is not the region's, and not in its domain. -/
theorem underscored_region_is_redirected_elsewhere :
    openCompute (.ofRegion "cn_north_1") .unreached = .ok (inRegion "cn-north-1") ∧
    endpoints ((inRegion "cn-north-1").run [.openFacade "ec2", .facade 0 .target]).1 =
      [⟨"ec2.cn-north-1.amazonaws.com.cn"⟩] ∧
    endpoints ((inRegion "us-east-1").run
        [.openFacade "ec2", .facade 0 (.forRegion "cn_north_1"), .facade 1 .target]).1 =
      [⟨"ec2.cn_north_1.amazonaws.com"⟩] :=
  ⟨rfl, by decide, by decide⟩

end Session

end CloudApi
