import CloudApi.Error
import CloudApi.Service.Dns
import CloudApi.Service.Version

/-! # Service descriptors

What a service is: its name, its capabilities, the versions of its interface and how its public
host names are made.  One version is the current one; a provider may be pinned to another.  The
current version and every pin are among the supported versions, and a provider has at most one
pin: the type holds no other descriptors. -/

namespace CloudApi

/-- The description of a service. -/
structure Descriptor where
  name : String
  capabilities : List String
  versions : List Version
  current : Version
  pins : List (Provider × Version) := []
  dns : Option DnsPattern := none
  current_mem : current ∈ versions
  pins_mem : ∀ p ∈ pins, p.2 ∈ versions
  pins_nodup : (pins.map (·.1)).Nodup

namespace Descriptor

/-- The error of a version that a service does not support. -/
def unsupported (service : String) (version : Version) (versions : List Version) : SetupError :=
  .unsupportedVersion service version.text (versions.map (·.text))

/-- A descriptor without pins and host names; the current version must be supported. -/
def make (name : String) (capabilities : List String) (versions : List Version)
    (current : Version) : Except SetupError Descriptor :=
  if h : current ∈ versions then
    .ok
      { name, capabilities, versions, current
        current_mem := h
        pins_mem := by simp
        pins_nodup := by simp }
  else .error (unsupported name current versions)

theorem nodup_pin {pins : List (Provider × Version)} (h : (pins.map (·.1)).Nodup)
    (provider : Provider) (version : Version) :
    ((pins.filter (·.1 ≠ provider) ++ [(provider, version)]).map (·.1)).Nodup := by
  rw [List.map_append, List.nodup_append]
  refine ⟨h.sublist ((List.filter_sublist).map _), by simp, ?_⟩
  intro a ha b hb e
  simp only [List.map_cons, List.map_nil, List.mem_singleton] at hb
  subst hb e
  simp only [List.mem_map, List.mem_filter] at ha
  obtain ⟨p, ⟨_, hp⟩, rfl⟩ := ha
  simp at hp

/-- Pin a provider to a supported version, in place of an earlier pin. -/
def pin (d : Descriptor) (provider : Provider) (version : Version) :
    Except SetupError Descriptor :=
  if h : version ∈ d.versions then
    .ok
      { d with
        pins := d.pins.filter (·.1 ≠ provider) ++ [(provider, version)]
        pins_mem := by
          intro p hp
          rcases List.mem_append.mp hp with hp | hp
          · exact d.pins_mem p (List.mem_filter.mp hp).1
          · rw [List.mem_singleton.mp hp]
            exact h
        pins_nodup := nodup_pin d.pins_nodup provider version }
  else .error (unsupported d.name version d.versions)

/-- Set how public host names are made. -/
def withDns (d : Descriptor) (dns : DnsPattern) : Descriptor := { d with dns := some dns }

/-- The service declares a capability of this name. -/
def hasCapability (d : Descriptor) (name : String) : Bool := d.capabilities.contains name

/-- The version that a provider uses: its pin, or else the current version. -/
def versionFor (d : Descriptor) (provider : Provider) : Version :=
  (d.pins.lookup provider).getD d.current

/-- Fail unless the version is supported. -/
def ensureSupported (d : Descriptor) (version : Version) : Except SetupError Unit :=
  if version ∈ d.versions then .ok () else .error (unsupported d.name version d.versions)

end Descriptor

end CloudApi
