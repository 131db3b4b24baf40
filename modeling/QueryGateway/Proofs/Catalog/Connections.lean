import QueryGateway.Proofs.Catalog.Ids
import QueryGateway.Proofs.Wire.Records

/-!
# Connections that are answered

A connection that an operation answers has an id of 64 bits, and its times are moments that a
clock can show, whatever text someone else put into the storage for them. So its document
reads back as it.
-/

namespace QueryGateway

open Text

theorem ConnectionRow.isReal_of_read {r : ConnectionRow} {x : Connection} (hid : IsInt64 r.id) (h : r.read = .ok x) :
    x.IsReal := by
  obtain ⟨created, synced⟩ := read_isReal h
  exact ⟨(read_ok h).1 ▸ hid, created, synced⟩

namespace Catalog

variable {c c' : Catalog} {now : Moment} {id : Int} {x : Connection}

/-- The ids of the rows and the last that was given out have 64 bits. -/
structure Narrow (c : Catalog) : Prop where
  ids : ∀ r ∈ c.connections, IsInt64 r.id
  nonneg : 0 ≤ c.lastId
  lastId : c.lastId ≤ maxInt64

theorem narrow_empty : Narrow {} := ⟨nofun, by decide, by decide⟩

/-- There is no id behind the largest of 64 bits. -/
theorem Change.narrow (h : Change now c c') (hc : c.Narrow) : c'.Narrow := by
  have hle := h.lastId_le
  have nonneg : 0 ≤ c'.lastId := Int.le_trans hc.nonneg hle
  have room : c'.lastId ≤ maxInt64 := by
    cases h with
    | issue room => exact room
    | register url name room => exact room
    | _ => exact hc.lastId
  refine ⟨fun r hr => ?_, nonneg, room⟩
  rcases h.origin hr with ⟨url, name, rfl, -, next⟩ | ⟨p, hp, follows⟩
  · have := hc.nonneg
    show minInt64 ≤ c.lastId + 1 ∧ c.lastId + 1 ≤ maxInt64
    unfold minInt64
    omega
  · rw [follows.keeps.1]
    exact hc.ids p hp

section

variable (hc : c.Narrow)

include hc

theorem Narrow.get (h : c.get id = .ok x) : x.IsReal := by
  unfold Catalog.get at h
  split at h
  · cases h
  · split at h
    · cases h
    · next r hr => exact ConnectionRow.isReal_of_read (hc.ids r (mem_of_find? hr).1) (mapError_eq_ok h)

theorem Narrow.metadata {m : ConnectionMetadata} (h : c.metadata id = .ok m) : m.connection.IsReal := by
  obtain ⟨x, got, h⟩ := bind_eq_ok h
  obtain ⟨tables, -, h⟩ := bind_eq_ok h
  cases h
  exact hc.get got

theorem Narrow.list {cs : List Connection} (h : c.list = .ok cs) : ∀ x ∈ cs, x.IsReal := by
  intro x hx
  unfold Catalog.list at h
  split at h
  · cases h
  · obtain ⟨r, hr, read⟩ := mem_of_mapM_eq_ok h hx
    have hr : r ∈ c.connections := (sorted_perm ConnectionRow.newer c.connections).mem_iff.1 hr
    exact ConnectionRow.isReal_of_read (hc.ids r hr) (mapError_eq_ok read)

/-- A change of a row that keeps its id answers such a connection. -/
theorem Narrow.update {change : ConnectionRow → ConnectionRow} (hid : ∀ r, (change r).id = r.id)
    (h : (c.update id change).1 = .ok x) : x.IsReal := by
  unfold Catalog.update at h
  split at h
  · cases h
  · split at h
    · cases h
    · next r hr =>
      have narrow : IsInt64 (change r).id := hid r ▸ hc.ids r (mem_of_find? hr).1
      exact ConnectionRow.isReal_of_read narrow (mapError_eq_ok h)

end

end Catalog

end QueryGateway
