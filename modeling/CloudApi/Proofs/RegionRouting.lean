import CloudApi.Proofs.RegionSpellings

/-!
# Routing by region

A session of a region resolves the compute service to the region's public host. A facade that is
redirected goes to a host that is named after the region's text, whatever text that is, and two
texts never lead to the same place: neither to one endpoint nor to one address.

The address adds a scheme to a host, unless the host already names one, which the text of a region
can bring about. Two hosts that get their addresses in different ways are still told apart, since
every host of the service begins with the service's own label, and no address does.

## Key results

- `Endpoint.eq_of_url_eq`: where the address tells the endpoint
- `Ec2.url_host_injective`: no two texts make the same address
- `resolve_compute`: where a session of a region finds the compute service
- `regions_route_apart`: both for sessions that have been used in any way
-/

namespace CloudApi

/-- The addresses of two endpoints differ, if neither begins in the way that an address does. -/
theorem Endpoint.eq_of_url_eq {a b : Endpoint} (ha : Text.startsWith "https://" a.text = false)
    (hb : Text.startsWith "https://" b.text = false) (same : a.url = b.url) : a = b := by
  -- an address that has been completed begins as none of the endpoints does
  have completed (e e' : Endpoint) (he : Text.startsWith "https://" e.text = false) :
      e.text ≠ "https://" ++ e'.text ++ "/" := by
    intro h
    rw [h, String.append_assoc, Text.startsWith_iff.mpr ⟨_, rfl⟩] at he
    cases he
  unfold url at same
  cases schemeA : a.hasScheme with
  | true =>
    cases schemeB : b.hasScheme with
    | true =>
      simp only [schemeA, schemeB, if_true] at same
      rw [Endpoint.mk.injEq]
      exact same
    | false =>
      simp only [schemeA, schemeB, if_true, Bool.false_eq_true, if_false] at same
      exact absurd same (completed a b ha)
  | false =>
    cases schemeB : b.hasScheme with
    | true =>
      simp only [schemeA, schemeB, if_true, Bool.false_eq_true, if_false] at same
      exact absurd same.symm (completed b a hb)
    | false =>
      simp only [schemeA, schemeB, Bool.false_eq_true, if_false] at same
      rw [String.append_left_inj, String.append_right_inj] at same
      rw [Endpoint.mk.injEq]
      exact same

namespace Protocol

/-- The requests of the protocol go to the address of the endpoint. -/
def Addresses (p : Protocol) : Prop :=
  ∀ endpoint version e, (p.prepare endpoint version e).url = endpoint.url

theorem addresses_ofProvider (provider : Provider) : (ofProvider provider).Addresses := by
  intro endpoint version e
  cases provider <;> rfl

end Protocol

namespace Ec2

/-! ### Hosts and addresses -/

/-- The endpoint that is named after the text of a region. -/
def host (region : String) : Endpoint := ⟨dns.hostFor (some region)⟩

/-- Every host of the service begins with the service's own label. -/
theorem startsWith_host (region : String) : Text.startsWith "ec2." (host region).text = true := by
  rw [Text.startsWith_iff, host]
  by_cases given : region = ""
  · exact ⟨defaultSuffix, by rw [given]; rfl⟩
  · exact ⟨_, hostFor_dns given⟩

/-- So none begins in the way that an address does. -/
theorem startsWith_scheme_host (region : String) :
    Text.startsWith "https://" (host region).text = false :=
  Text.startsWith_eq_false (startsWith_host region) (by decide) (by decide)

theorem host_injective : Function.Injective host := by
  intro region region' same
  exact hostFor_injective (Endpoint.mk.inj same)

/-- No two texts make the same address. -/
theorem url_host_injective : Function.Injective fun region => (host region).url := by
  intro region region' same
  apply host_injective
  exact Endpoint.eq_of_url_eq (startsWith_scheme_host region) (startsWith_scheme_host region') same

/-- The host of a known region. -/
theorem text_host {region : String} (known : region ∈ regions) :
    (host region).text =
      "ec2." ++ region ++ "." ++
        (if region ∈ chinaRegions then "amazonaws.com.cn" else "amazonaws.com") := by
  have given : region ≠ "" := by
    intro empty
    exact absurd (empty ▸ known) (by decide)
  rw [host, hostFor_dns given, suffixFor_dns, String.append_assoc, String.append_assoc]
  rfl

end Ec2

namespace Session

open CommandLine (newSession)

/-! ### Sessions of a region -/

/-- A resolver that has built nothing yet finds the compute service at the host of its region. -/
private theorem resolve_anew (context : Context) (transport : Transport) {region : String}
    (aws : context.provider = .aws) (located : context.region = some region) :
    ∃ h r, (newSession context transport).resolver.cleared.resolve Ec2.service = (.ok h, r) ∧
      h.endpoint = Ec2.host region := by
  obtain ⟨provider, _, urls, credentials⟩ := context
  cases aws
  cases located
  exact ⟨_, _, rfl, rfl⟩

/-- A session of a region that has kept its settings resolves the compute service to the region's
host, whether it has been resolved before or not. -/
theorem resolve_compute {context : Context} {transport : Transport} {region : String} {s : Session}
    (sound : s.Sound) (kept : (newSession context transport).Continues s)
    (aws : context.provider = .aws) (located : context.region = some region) :
    ∃ h s', s.perform (.resolve Ec2.service) = (.handler h, s') ∧
      h.endpoint = Ec2.host region := by
  obtain ⟨h₀, r₀, anew, endpoint⟩ := resolve_anew context transport aws located
  -- what is kept comes to what would be found anew, apart from which object it is
  have resolved := Resolver.resolve_cases sound.resolver Ec2.service
  rw [kept.resolver.same, anew] at resolved
  simp only [perform]
  generalize s.resolver.resolve Ec2.service = answer at resolved ⊢
  cases resolved with
  | found h _ r' _ _ _ _ => exact ⟨h, _, rfl, endpoint⟩

/-! ### Facades that are redirected -/

/-- A facade of a session for the compute service, of either provider, that has been used in any
way. The facade may itself have been redirected. -/
structure ComputeFacade (s : Session) (index : Nat) : Prop where
  opened : ∃ context transport s₀, openCompute context transport = .ok s₀ ∧ s₀.Leads s
  made : ∃ g, s.facades[index]? = some g

/-- Whatever is done in a session for the compute service, its protocol keeps to the address of the
endpoint. -/
theorem addresses_of_binding {context : Context} {transport : Transport} {s₀ s : Session}
    (opened : openCompute context transport = .ok s₀) (used : s₀.Leads s) {service : String}
    {b : Binding} (found : s.resolver.binding service = .ok b) : b.protocol.Addresses := by
  obtain ⟨_, continues⟩ := used.sound (Opened.compute opened).sound
  obtain ⟨checked, _, _, _, rfl⟩ := openCompute_eq_ok opened
  rw [continues.resolver.binding] at found
  rw [CommandLine.binding_newSession found, CommandLine.protocol_mainBinding]
  exact Protocol.addresses_ofProvider checked.provider

/-- Redirecting a facade succeeds with any text, and from then on it goes to the text's host. -/
theorem ComputeFacade.redirected {s : Session} {index : Nat} (c : s.ComputeFacade index)
    (text : String) :
    ∃ f s', s.perform (.facade index (.forRegion text)) = (.facade s.facades.length f, s') ∧
      s'.Serves s.facades.length f (Ec2.host text) ∧
      ∀ service b, s'.resolver.binding service = .ok b → b.protocol.Addresses := by
  obtain ⟨context, transport, s₀, opened, used⟩ := c.opened
  obtain ⟨g, made⟩ := c.made
  obtain ⟨f, s', performed, _, _, _, serves⟩ := redirects_compute opened used made text
  have step : s.Step s' := by
    have performs : s.Step (s.perform (.facade index (.forRegion text))).2 := .perform _
    rwa [performed] at performs
  have used' : s₀.Leads s' := used.tail step
  exact ⟨f, s', performed, serves, fun _ _ => addresses_of_binding opened used'⟩

/-- What is asked of a facade from then on goes to the address of its endpoint, if its protocol
keeps to that. -/
theorem Serves.url_eq {s s' : Session} {index : Nat} {f : Facade} {endpoint : Endpoint}
    (serves : s.Serves index f endpoint)
    (addresses : ∀ service b, s.resolver.binding service = .ok b → b.protocol.Addresses)
    (later : s.Leads s') {request : FacadeRequest} {p : Prepared}
    (issued : p ∈ s'.issued (.facade index request)) : p.url = endpoint.url := by
  obtain ⟨b, found, always⟩ := serves
  rw [(always s' later).2 request] at issued
  obtain ⟨e, _, rfl⟩ := List.mem_map.mp issued
  exact addresses f.service b found endpoint _ e

/-- A session of the public cloud is opened for every accepted text of a region, and the text means
a known region. Whatever is done with the session, it resolves the compute service to the host that
is made of the service, this region and the region's domain. And wherever facades of the compute
service are redirected with two texts that differ, in one session or in two, that succeeds; from
then on they have endpoints that differ, and no request of the one goes to the address of a request
of the other. -/
theorem regions_route_apart {context : Context} {text region : String}
    (aws : context.provider = .aws) (asked : context.region = some text)
    (accepted : Ec2.validateRegion text = .ok region) (transport : Transport) :
    (region ∈ Ec2.regions ∧
      ∃ s₀, openCompute context transport = .ok s₀ ∧ ∀ operations, ∃ h s',
        (s₀.run operations).2.perform (.resolve "ec2") = (.handler h, s') ∧
          h.endpoint.text =
            "ec2." ++ region ++ "." ++
              (if region ∈ Ec2.chinaRegions then "amazonaws.com.cn" else "amazonaws.com")) ∧
    ∀ (s t : Session) (i j : Nat), s.ComputeFacade i → t.ComputeFacade j →
      ∀ r r' : String, r ≠ r' →
      ∃ f s' f' t' e e',
        s.perform (.facade i (.forRegion r)) = (.facade s.facades.length f, s') ∧
        t.perform (.facade j (.forRegion r')) = (.facade t.facades.length f', t') ∧
        s'.Serves s.facades.length f e ∧ t'.Serves t.facades.length f' e' ∧ e ≠ e' ∧
        ∀ s'' t'', s'.Leads s'' → t'.Leads t'' → ∀ q q',
          ∀ p ∈ s''.issued (.facade s.facades.length q),
          ∀ p' ∈ t''.issued (.facade t.facades.length q'), p.url ≠ p'.url := by
  constructor
  · -- the accepted text means a known region, so a session is opened for it
    obtain ⟨rfl, known⟩ := Ec2.validateRegion_eq_ok.mp accepted
    refine ⟨known, ?_⟩
    obtain ⟨s₀, opened⟩ := (exists_openCompute_iff transport aws asked).mpr known
    refine ⟨s₀, opened, ?_⟩
    intro operations
    have fresh : s₀.Sound := (Opened.compute opened).sound
    obtain ⟨_, rfl⟩ := openCompute_of_region aws asked opened
    -- whatever has been done since, the session has kept its region
    obtain ⟨sound, continues⟩ := (leads_run _ operations).sound fresh
    obtain ⟨h, s', performed, endpoint⟩ := resolve_compute sound continues aws rfl
    exact ⟨h, s', performed, by rw [endpoint, Ec2.text_host known]⟩
  · intro s t i j cs ct r r' differ
    -- each redirection leads to the host of its own text
    obtain ⟨f, s', redirected, serves, addresses⟩ := cs.redirected r
    obtain ⟨f', t', redirected', serves', addresses'⟩ := ct.redirected r'
    refine ⟨f, s', f', t', _, _, redirected, redirected', serves, serves', ?_, ?_⟩
    · exact Ec2.host_injective.ne differ
    · intro s'' t'' later later' q q' p issued p' issued'
      -- the two addresses are those of the two hosts, which tell the texts apart
      rw [serves.url_eq addresses later issued, serves'.url_eq addresses' later' issued']
      exact Ec2.url_host_injective.ne differ

/-! A session whose region is written in an unusual way, and two facades of another session, one of
which has been redirected before. One of their texts is empty, and the other names a scheme. -/

private def redirectedOnce : Session :=
  ((newSession (.ofRegion "us-east-1") .unreached).run
    [.openFacade "ec2", .facade 0 (.forRegion "eu-west-1")]).2

theorem unnamed_region_and_scheme_route_apart :
    Ec2.validateRegion "Region.cn_north_1 " = .ok "cn-north-1" ∧
    (∃ s₀, openCompute (.ofRegion "Region.cn_north_1 ") .unreached = .ok s₀ ∧ ∃ h s',
      (s₀.run [.resolve "ec2"]).2.perform (.resolve "ec2") = (.handler h, s') ∧
        h.endpoint.text = "ec2.cn-north-1.amazonaws.com.cn") ∧
    ∃ f s' f' t' e e',
      redirectedOnce.perform (.facade 0 (.forRegion "")) = (.facade 2 f, s') ∧
      redirectedOnce.perform (.facade 1 (.forRegion "a://b")) = (.facade 2 f', t') ∧
      s'.Serves 2 f e ∧ t'.Serves 2 f' e' ∧ e ≠ e' ∧
      ∀ p ∈ s'.issued (.facade 2 .describeRegions), ∀ p' ∈ t'.issued (.facade 2 .describeRegions),
        p.url ≠ p'.url := by
  have accepted : Ec2.validateRegion "Region.cn_north_1 " = .ok "cn-north-1" := rfl
  have asked : (Context.ofRegion "Region.cn_north_1 ").region = some "Region.cn_north_1 " := rfl
  obtain ⟨⟨_, s₀, opened, resolves⟩, apart⟩ := regions_route_apart rfl asked accepted .unreached
  have compute (index : Nat) (made : ∃ g, redirectedOnce.facades[index]? = some g) :
      redirectedOnce.ComputeFacade index :=
    ⟨⟨.ofRegion "us-east-1", .unreached, _, rfl, leads_run _ _⟩, made⟩
  obtain ⟨f, s', f', t', e, e', redirected, redirected', serves, serves', differ, urls⟩ :=
    apart redirectedOnce redirectedOnce 0 1 (compute 0 ⟨_, rfl⟩) (compute 1 ⟨_, rfl⟩) "" "a://b"
      (by decide)
  exact ⟨accepted, ⟨s₀, opened, resolves _⟩, f, s', f', t', e, e', redirected, redirected', serves,
    serves', differ, urls s' t' .refl .refl _ _⟩

end Session

end CloudApi
