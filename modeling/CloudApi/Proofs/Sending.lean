import CloudApi.Proofs.LooseLists
import CloudApi.Session.Operation

/-!
# What operations send

An operation that sends reads its input, checks it, and only then hands a request to the
transport. Whatever fails before that is a local error and leaves the link as it was; whatever
fails after it is the provider's refusal or a transport error.

## Key results

- `failsLocally_envelope`, `failsLocally_queryOfLoose`: what is found wrong with a query is local
- `exchange_link`, `exchange_error_not_local`: an exchange sends its request, and its errors are
  not local
- `delivers_describe`, `delivers_describeLoose`: a query sends one request or fails locally
- `describe_sends_prepared_or_fails_locally`: the request that is sent is the one that is
  prepared, and each operation sends at most one
-/

namespace CloudApi

/-- A result whose error, if it is one, was found before any request was sent. -/
def FailsLocally {α : Type} (result : Except Error α) : Prop :=
  ∀ e, result = .error e → e.isLocal = true

/-! ### Reading and checking

What is wrong with a query is wrong with what is given for it, and that is found locally. -/

private theorem failsLocally_of_isAboutInput {α : Type} {result : Except Error α}
    (h : FailsWith Error.IsAboutInput result) : FailsLocally result :=
  h.imp fun _ he => he.isLocal

private theorem failsWith_filtersOfLoose (c : Capability) (filters : Loose) :
    FailsWith Error.IsAboutInput (c.filtersOfLoose filters) := by
  unfold Capability.filtersOfLoose
  split
  · exact failsWith_ok _
  · -- filters are given, and the capability may take none
    split
    · exact Filter.failsWith_listOfLoose _ _
    · exact failsWith_error trivial

/-- The query that loose values stand for is refused with a local error only. -/
theorem failsLocally_queryOfLoose (c : Capability) (ids filters : Loose) :
    FailsLocally (c.queryOfLoose ids filters) := by
  apply failsLocally_of_isAboutInput
  unfold Capability.queryOfLoose
  refine (failsWith_mapError _ fun _ => trivial).bind fun ids => ?_
  refine (failsWith_filtersOfLoose c filters).bind fun filters => ?_
  exact failsWith_ok _

/-- A query that is not accepted is refused with a local error. -/
theorem failsLocally_envelope (c : Capability) (q : Query) : FailsLocally (c.envelope q) := by
  apply failsLocally_of_isAboutInput
  unfold Capability.envelope
  refine (failsWith_mapError _ fun _ => trivial).bind fun _ => ?_
  refine (failsWith_mapError _ fun _ => trivial).bind fun _ => ?_
  exact failsWith_ok _

/-! ### Exchanges -/

/-- An exchange hands over its request, whatever comes back. -/
theorem exchange_link (l : Link) (decode : RawReply → Except Refusal (Option Json))
    (request : Prepared) :
    (l.exchange decode request).2 = { l with sent := l.sent ++ [request] } := by
  unfold Link.exchange Link.send
  cases l.transport l.sent request with
  | error e => rfl
  | ok raw => rfl

/-- What fails once a request has been handed over is not local. -/
theorem exchange_error_not_local {l : Link} {decode : RawReply → Except Refusal (Option Json)}
    {request : Prepared} {e : Error} (h : (l.exchange decode request).1 = .error e) :
    e.isLocal = false := by
  unfold Link.exchange Link.send at h
  -- either nothing comes back, or what comes back is decoded
  cases ht : l.transport l.sent request with
  | error failure =>
    simp only [ht, Except.error.injEq] at h
    rw [← h]
    rfl
  | ok raw =>
    simp only [ht] at h
    cases hd : decode raw with
    | error refusal =>
      rw [hd] at h
      have refused : Error.refused refusal = e := Except.error.inj h
      rw [← refused]
      rfl
    | ok answer =>
      rw [hd] at h
      cases h

/-- How a sending operation leaves the link `l`: as it was, with a local error, or with one more
request sent, and then no error is local. -/
def Delivers (l : Link) (result : Except Error (Option Json) × Link) : Prop :=
  (∃ e, result = (.error e, l) ∧ e.isLocal = true) ∨
  ∃ request, result.2 = { l with sent := l.sent ++ [request] } ∧
    ∀ e, result.1 = .error e → e.isLocal = false

private theorem delivers_call (t : CallTarget) (e : Envelope) (l : Link) :
    Delivers l (t.call e l) := by
  right
  exact ⟨t.prepare e, exchange_link l _ _, fun _ h => exchange_error_not_local h⟩

/-- A query sends one request or fails locally. -/
theorem delivers_describe (c : Capability) (q : Query) (l : Link) :
    Delivers l (c.describe q l) := by
  unfold Capability.describe
  cases h : c.envelope q with
  | error e => exact .inl ⟨e, rfl, failsLocally_envelope c q e h⟩
  | ok e => exact delivers_call c.target e l

/-- A loose query sends one request or fails locally. -/
theorem delivers_describeLoose (c : Capability) (ids filters : Loose) (l : Link) :
    Delivers l (c.describeLoose ids filters l) := by
  unfold Capability.describeLoose
  cases h : c.queryOfLoose ids filters with
  | error e => exact .inl ⟨e, rfl, failsLocally_queryOfLoose c ids filters e h⟩
  | ok q => exact delivers_describe c q l

/-! ### Preparing and sending -/

/-- A query that can be prepared is sent as it is prepared. -/
theorem describe_link_of_prepare {c : Capability} {q : Query} {r : Prepared}
    (h : c.prepare q = .ok r) (l : Link) :
    (c.describe q l).2 = { l with sent := l.sent ++ [r] } := by
  obtain ⟨e, he, hr⟩ := map_eq_ok.mp h
  unfold Capability.describe
  rw [he, ← hr]
  exact exchange_link l _ _

/-- A query that cannot be prepared is not sent, and fails in the same way. -/
theorem describe_eq_of_prepare_error {c : Capability} {q : Query} {e : Error}
    (h : c.prepare q = .error e) (l : Link) : c.describe q l = (.error e, l) := by
  unfold Capability.prepare at h
  unfold Capability.describe
  -- both make the envelope, and only that can fail before sending
  cases he : c.envelope q with
  | error e' =>
    simp only [he, Except.map, Except.error.injEq] at h
    rw [h]
  | ok e' =>
    simp only [he, Except.map] at h
    exact nomatch h

/-! ### Operations of a session -/

/-- The request asks for something to be sent. -/
def FacadeRequest.sends : FacadeRequest → Bool
  | .capability _ (.describe _) | .capability _ (.describeLoose _ _) => true
  | .call _ | .describeAccountAttributes _ | .describeRegions => true
  | .listZones | .listAccounts _ => true
  | _ => false

/-- What a sending operation comes to: a local error and the link `l` as it was, or one more
request sent and an answer or an error that is not local. -/
inductive Settled (l : Link) : Outcome → Link → Prop where
  | failed (e : Error) (h : e.isLocal = true) : Settled l (.failed e) l
  | answered (request : Prepared) (answer : Option Json) :
    Settled l (.answer answer) { l with sent := l.sent ++ [request] }
  | refused (request : Prepared) (e : Error) (h : e.isLocal = false) :
    Settled l (.failed e) { l with sent := l.sent ++ [request] }

private theorem settled_received {s : Session} {result : Except Error (Option Json) × Link}
    (h : Delivers s.link result) :
    Settled s.link (s.received result).1 (s.received result).2.link := by
  obtain ⟨r, l⟩ := result
  obtain ⟨e, he, hl⟩ | ⟨request, hl, hn⟩ := h
  · -- the link is the one from before
    obtain ⟨rfl, rfl⟩ := Prod.mk.injEq .. ▸ he
    exact .failed e hl
  · dsimp only at hl
    -- one request has gone out, and the result tells what has come of it
    subst hl
    cases r with
    | ok answer => exact .answered request answer
    | error e => exact .refused request e (hn e rfl)

private theorem settled_sendTo (s : Session) (f : Facade) (e : Envelope) :
    Settled s.link (s.sendTo f e).1 (s.sendTo f e).2.link :=
  settled_received (delivers_call f.target e s.link)

private theorem settled_performCapability (s : Session) (i : Instance Capability)
    {request : CapabilityRequest} (name : String)
    (h : (FacadeRequest.capability name request).sends = true) :
    Settled s.link (s.performCapability i request).1 (s.performCapability i request).2.link := by
  cases request with
  | describe q => exact settled_received (delivers_describe i.value q s.link)
  | describeLoose ids filters =>
    exact settled_received (delivers_describeLoose i.value ids filters s.link)
  | itself => exact nomatch h
  | envelope q => exact nomatch h
  | prepare q => exact nomatch h
  | queryOfLoose ids filters => exact nomatch h

/-- Every sending operation on a facade sends one request or fails locally. -/
theorem settled_performFacade (s : Session) (index : Nat) (f : Facade) {request : FacadeRequest}
    (h : request.sends = true) :
    Settled s.link (s.performFacade index f request).1
      (s.performFacade index f request).2.link := by
  -- two kinds of request may fail before they send; the others that send always do
  cases request with
  | capability name request =>
    rcases hc : f.capability name with ⟨answer, g⟩
    -- the lookup replaces the facade and leaves the link alone
    cases answer with
    | error e =>
      simp only [Session.performFacade, hc]
      exact .failed (.setup e) rfl
    | ok i =>
      simp only [Session.performFacade, hc]
      exact settled_performCapability (s.setFacade index g) i name h
  | describeAccountAttributes names =>
    cases ha : Ec2.accountAttributes names with
    | error e =>
      simp only [Session.performFacade, ha]
      exact .failed (.shape e) rfl
    | ok e =>
      simp only [Session.performFacade, ha]
      exact settled_sendTo s f e
  | call e => exact settled_sendTo s f e
  | describeRegions => exact settled_sendTo s f _
  | listZones => exact settled_sendTo s f _
  | listAccounts domain => exact settled_sendTo s f _
  | names => exact nomatch h
  | target => exact nomatch h
  | forRegion region => exact nomatch h
  | prepare e => exact nomatch h
  | accountAttributes names => exact nomatch h

/-- Its error is local exactly if a sending operation has sent nothing; an answer, a refusal and
a transport error come after exactly one request. -/
private theorem Settled.sent {l l' : Link} {outcome : Outcome} (h : Settled l outcome l') :
    (l'.sent = l.sent ∨ ∃ r, l'.sent = l.sent ++ [r]) ∧
    ((∃ e, outcome = .failed e ∧ e.isLocal = true) ↔ l'.sent = l.sent) ∧
    ((∃ e, outcome = .failed e ∧ e.isLocal = true) ∨ (∃ answer, outcome = .answer answer) ∨
      (∃ e, outcome = .failed (.refused e)) ∨ ∃ e, outcome = .failed (.transport e)) := by
  -- a request more is never the same as none
  have grown (r : Prepared) : l.sent ++ [r] ≠ l.sent := by simp
  cases h with
  | failed e he =>
    -- nothing was sent
    exact ⟨.inl rfl, ⟨fun _ => rfl, fun _ => ⟨e, rfl, he⟩⟩, .inl ⟨e, rfl, he⟩⟩
  | answered r answer =>
    refine ⟨.inr ⟨r, rfl⟩, ⟨?_, fun hs => absurd hs (grown r)⟩, .inr (.inl ⟨answer, rfl⟩)⟩
    rintro ⟨e, he, _⟩
    exact nomatch he
  | refused r e hn =>
    refine ⟨.inr ⟨r, rfl⟩, ⟨?_, fun hs => absurd hs (grown r)⟩, .inr (.inr ?_)⟩
    · rintro ⟨e', he, hl⟩
      cases he
      rw [hn] at hl
      exact nomatch hl
    · -- the other causes are local
      cases e with
      | refused e => exact .inl ⟨e, rfl⟩
      | transport e => exact .inr ⟨e, rfl⟩
      | _ => exact nomatch hn

/-- A query that can be prepared is sent as it is prepared, and one that cannot fails in the same
way and sends nothing. Every sending operation on a facade sends at most one request. It fails
with a local error exactly if it has sent nothing, and otherwise answers, is refused, or fails in
transport. -/
theorem describe_sends_prepared_or_fails_locally :
    (∀ (c : Capability) (q : Query) (l : Link),
      (∀ r, c.prepare q = .ok r → (c.describe q l).2 = { l with sent := l.sent ++ [r] }) ∧
      (∀ e, c.prepare q = .error e → c.describe q l = (.error e, l))) ∧
    (∀ (s : Session) (index : Nat) (f : Facade) (request : FacadeRequest),
      request.sends = true →
      let (outcome, s') := s.performFacade index f request
      (s'.link.sent = s.link.sent ∨ ∃ r, s'.link.sent = s.link.sent ++ [r]) ∧
      ((∃ e, outcome = .failed e ∧ e.isLocal = true) ↔ s'.link.sent = s.link.sent) ∧
      ((∃ e, outcome = .failed e ∧ e.isLocal = true) ∨ (∃ answer, outcome = .answer answer) ∨
        (∃ e, outcome = .failed (.refused e)) ∨ ∃ e, outcome = .failed (.transport e))) := by
  refine ⟨fun c q l => ⟨?_, ?_⟩, fun s index f request h => ?_⟩
  · intro r h
    exact describe_link_of_prepare h l
  · intro e h
    exact describe_eq_of_prepare_error h l
  · exact (settled_performFacade s index f h).sent

/-! A query for tags on a facade that was redirected to another region, over a link that is
down. -/

private def tagsElsewhere : Capability :=
  { definition := { name := "tag", command := "DescribeTags", filters := some Ec2.Names.tags }
    target :=
      { handler := Ec2.firstHandler "us-east-1"
        override := some ⟨"ec2.cn-north-1.amazonaws.com.cn"⟩ } }

private def tagsByKey : Query :=
  { filters := [⟨⟨Ec2.Names.tags, "key", by decide⟩, ["Name", "Stage"]⟩] }

private def tagsByKeyRequest : Prepared :=
  { method := .post
    url := "https://ec2.cn-north-1.amazonaws.com.cn/"
    params :=
      [("Action", "DescribeTags"), ("Version", "2014-06-15"), ("Filter.1.Name", "key"),
       ("Filter.1.Value.1", "Name"), ("Filter.1.Value.2", "Stage")] }

private def tagsById : Query := { ids := ["i-1"] }

/-- A transport that reaches nobody. -/
def Transport.unreached : Transport := fun _ _ => .error { text := "connection refused" }

private def linkDown : Link := { transport := .unreached }

private def sessionDown : Session :=
  { resolver := { context := .ofRegion "us-east-1" }, definitions := [], link := linkDown }

private def facadeElsewhere : Facade :=
  .assemble "ec2" [tagsElsewhere.definition] tagsElsewhere.target

theorem describe_tags_sends_one_request :
    tagsElsewhere.prepare tagsByKey = .ok tagsByKeyRequest ∧
    (tagsElsewhere.describe tagsByKey linkDown).2.sent = [tagsByKeyRequest] ∧
    tagsElsewhere.prepare tagsById = .error (.name (.tooManyIds "tag" 0 1)) ∧
    tagsElsewhere.describe tagsById linkDown =
      (.error (.name (.tooManyIds "tag" 0 1)), linkDown) ∧
    FacadeRequest.describeRegions.sends = true ∧
    ((∃ e, (sessionDown.performFacade 0 facadeElsewhere .describeRegions).1 = .failed e ∧
        e.isLocal = true) ↔
      (sessionDown.performFacade 0 facadeElsewhere .describeRegions).2.link.sent = []) := by
  have accepted : tagsElsewhere.prepare tagsByKey = .ok tagsByKeyRequest := rfl
  have refused : tagsElsewhere.prepare tagsById = .error (.name (.tooManyIds "tag" 0 1)) := rfl
  have tags := describe_sends_prepared_or_fails_locally.1 tagsElsewhere
  have regions := describe_sends_prepared_or_fails_locally.2 sessionDown 0 facadeElsewhere
    .describeRegions rfl
  refine ⟨accepted, ?_, refused, ?_, rfl, regions.2.1⟩
  · rw [(tags tagsByKey linkDown).1 _ accepted]
    rfl
  · exact (tags tagsById linkDown).2 _ refused

end CloudApi
