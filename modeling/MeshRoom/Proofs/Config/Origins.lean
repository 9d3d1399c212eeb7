import MeshRoom.Proofs.Request.Addresses

/-!
# The origins of one setting

Requests and the channel go to one server: to the host and the port that the server setting names,
both encrypted or neither. That needs a server setting that names a host. Of one that has slashes
only, or nothing, no base is read, while the address of the channel is read from the room, whose
first part is then taken for the host.
-/

namespace MeshRoom.Config

open Url

variable {c : Config}

/-! ### With and without a server -/

/-- Where a server is named, both addresses are read or neither. -/
lemma NamesServer.isSome_iff (h : c.NamesServer) :
    c.httpBase?.isSome ↔ c.channelUrl?.isSome := by
  have hspecial := isSpecial_of_mem c.httpScheme_mem
  have hspecial' := isSpecial_of_mem c.channelScheme_mem
  rw [httpBase?_eq, channelUrl?_eq, h.dropSlashes_append, h.dropSlashes_append,
    readAuthority?_of_isSpecial hspecial, readAuthority?_of_isSpecial hspecial',
    cutAt_append (by decide), cutAt_append (by decide),
    place?_scheme hspecial hspecial' c.defaultPort?_schemes]
  simp

/-- Where no server is named, there is no base, and the channel is where the room alone says. -/
lemma addresses_of_not_namesServer (h : ¬c.NamesServer) :
    c.httpBase? = none ∧
      c.channelUrl? = parse? (c.channelScheme ++ "://" ++ c.room ++ "/") := by
  have hroom := parse?_web c.channelScheme_mem c.room.toList
  rw [String.ofList_toList] at hroom
  refine ⟨httpBase?_of_not_namesServer h, ?_⟩
  rw [channelUrl?_eq, dropSlashes_of_not_namesServer h, hroom]
  rfl

/-- Both addresses of a setting are read or neither, if and only if it names a server or the room
alone makes no address of a channel. Where they are, they have one host and one port, and are
encrypted alike; where no server is named, the channel is where the room alone says. -/
theorem addresses_agree_iff (c : Config) :
    ((c.httpBase?.isSome ↔ c.channelUrl?.isSome) ↔ c.NamesServer ∨ c.channelUrl? = none) ∧
      (¬c.NamesServer → c.httpBase? = none ∧
        c.channelUrl? = parse? (c.channelScheme ++ "://" ++ c.room ++ "/")) ∧
      ∀ base, c.httpBase? = some base → ∃ config, ChannelConfig.ofConfig? c = some config ∧
        c.channelUrl? = some config.url ∧ config.url.SameServer base ∧
          (base.scheme = "https" ↔ config.useTls) := by
  refine ⟨?_, addresses_of_not_namesServer, ?_⟩
  · by_cases h : c.NamesServer
    · simp only [h, true_or, iff_true]
      exact h.isSome_iff
    · simp [h, (addresses_of_not_namesServer h).1]
  · intro base hbase
    obtain ⟨place, front, -, -, -, -, hchannel⟩ := c.exists_addresses hbase
    obtain ⟨hscheme, hscheme', hhost, hport, -⟩ := same_server hbase hchannel
    generalize withPath { place with scheme := c.channelScheme } [""]
      (front ++ (c.roomText ++ ['/'])) = channel at hchannel hscheme' hhost hport
    have hencrypted : base.scheme = "https" ↔ channel.scheme = "wss" := by
      rw [hscheme, hscheme']
      exact encrypted_iff
    refine ⟨{ url := channel }, ?_, hchannel, ⟨hhost, ?_, hencrypted⟩, ?_⟩
    · rw [ChannelConfig.ofConfig?, hchannel]
      rfl
    · rw [effectivePort?, effectivePort?, hport, hscheme, hscheme', c.defaultPort?_schemes]
    · simpa [ChannelConfig.useTls] using hencrypted

/-- With an empty server setting the room is taken for the host of the channel. -/
theorem not_addresses_agree_always :
    ¬∀ c : Config, c.httpBase?.isSome ↔ c.channelUrl?.isSome := by
  intro h
  let c : Config := { server := "" }
  let channel : Url := { scheme := "ws", host := some (.domain "default"), path := .segments [""] }
  have hbase : c.httpBase? = none := by decide +kernel
  have hchannel : c.channelUrl? = some channel := by decide +kernel
  have hagree := h c
  rw [hbase, hchannel] at hagree
  simp at hagree

end MeshRoom.Config
