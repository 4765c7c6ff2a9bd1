import Mathlib.Data.List.Forall2
import VariantStore.Proofs.Store.Run

/-!
# A larger store holds what a smaller one holds

Two stores of different bounds go through the same writes and removals. The layout of the smaller
one is a beginning of the other, on both levels: its resources are the first resources of the larger
store, and the variants of each are the first variants there (`Layout.Within`). It takes prefixes on
both levels, and not just inclusion, for a write to keep one within the other: a cut takes what
stands last.

So a larger store never misses where the smaller one answers, and it gives the same item
(`hits_of_growth`).
-/

namespace VariantStore

open Recency

/-! ## Beginnings of lists of entries -/

namespace Recency

variable {κ ν : Type} [DecidableEq κ]

theorem isPrefix_others {entries entries' : List (κ × ν)} (h : entries <+: entries') (key : κ) :
    others key entries <+: others key entries' :=
  h.filter _

theorem isPrefix_take {α : Type} {l l' : List α} (h : l <+: l') {n n' : Nat} (hn : n ≤ n') :
    l.take n <+: l'.take n' := by
  obtain ⟨rest, rfl⟩ := h
  have hcut : l.take n <+: (l ++ rest).take n := by
    rw [List.take_append]
    exact List.prefix_append _ _
  exact hcut.trans (List.take_prefix_take_left hn)

theorem isPrefix_renew {entries entries' : List (κ × ν)} (h : entries <+: entries') (key : κ)
    (value : ν) : renew key value entries <+: renew key value entries' :=
  (List.prefix_cons_inj _).mpr (isPrefix_others h key)

theorem value?_of_isPrefix {entries entries' : List (κ × ν)} (h : entries <+: entries') {key : κ}
    {value : ν} (hv : value? key entries = some value) : value? key entries' = some value := by
  obtain ⟨e, he, rfl⟩ := Option.map_eq_some_iff.mp hv
  exact Option.map_eq_some_iff.mpr ⟨e, h.find?_eq_some he, rfl⟩

end Recency

/-! ## One layout within another -/

namespace Layout

/-- The resources are the first ones of the other layout, and the variants of each are the first
ones there. -/
inductive Within : Layout → Layout → Prop
  | nil (l : Layout) : Within [] l
  | cons (resource : ResourceId) {vs vs' : List (Selector × Item)} {rest rest' : Layout}
      (variants : vs <+: vs') (within : Within rest rest') :
      Within ((resource, vs) :: rest) ((resource, vs') :: rest')

namespace Within

variable {l l' : Layout}

theorem keys (h : Within l l') : l.map Prod.fst <+: l'.map Prod.fst := by
  induction h with
  | nil l => exact List.nil_prefix
  | cons resource hvs hrest ih => exact (List.prefix_cons_inj resource).mpr ih

theorem length_le (h : Within l l') : l.length ≤ l'.length := by
  have hlen := h.keys.length_le
  rwa [List.length_map, List.length_map] at hlen

/-- No fewer variants in the whole. -/
theorem sum_le (h : Within l l') :
    (l.map fun e => e.2.length).sum ≤ (l'.map fun e => e.2.length).sum := by
  induction h with
  | nil l => exact Nat.zero_le _
  | cons resource hvs hrest ih =>
    have hlen := hvs.length_le
    simp only [List.map_cons, List.sum_cons]
    omega

theorem value? (h : Within l l') {resource : ResourceId} {vs : List (Selector × Item)}
    (hvs : Recency.value? resource l = some vs) :
    ∃ vs', Recency.value? resource l' = some vs' ∧ vs <+: vs' := by
  induction h with
  | nil l => cases hvs
  | cons other hprefix hrest ih =>
    by_cases heq : other = resource
    · simp only [Recency.value?, List.find?_cons, heq, beq_self_eq_true, Option.map_some,
        Option.some.injEq, exists_eq_left'] at hvs ⊢
      rw [← hvs]
      exact hprefix
    · -- neither layout has the resource here
      have hne : (other == resource) = false := by simpa using heq
      simp only [Recency.value?, List.find?_cons, hne] at hvs ⊢
      exact ih hvs

theorem variants (h : Within l l') (resource : ResourceId) :
    Layout.variants l resource <+: Layout.variants l' resource := by
  unfold Layout.variants
  cases hvs : Recency.value? resource l with
  | none => exact List.nil_prefix
  | some vs =>
    obtain ⟨vs', hvs', hprefix⟩ := h.value? hvs
    rw [hvs']
    exact hprefix

theorem others (h : Within l l') (resource : ResourceId) :
    Within (Recency.others resource l) (Recency.others resource l') := by
  induction h with
  | nil l => exact .nil _
  | cons other hvs hrest ih =>
    by_cases heq : other = resource
    · rw [others_cons_of_eq heq, others_cons_of_eq heq]
      exact ih
    · rw [others_cons_of_ne heq, others_cons_of_ne heq]
      exact .cons other hvs ih

theorem take (h : Within l l') {n n' : Nat} (hn : n ≤ n') : Within (l.take n) (l'.take n') := by
  induction h generalizing n n' with
  | nil l =>
    rw [List.take_nil]
    exact .nil _
  | cons other hvs hrest ih =>
    cases n with
    | zero => exact .nil _
    | succ n =>
      obtain ⟨m, rfl⟩ : ∃ m, n' = m + 1 := ⟨n' - 1, by omega⟩
      exact .cons other hvs (ih (by omega))

variable {c c' v v' : Nat}

/-- A write into both keeps one within the other, whether or not either of them has to evict. -/
theorem write (h : Within l l') (hc : c ≤ c') (hv : v ≤ v') (key : Key) (item : Item) :
    Within (Layout.write c v l key item) (Layout.write c' v' l' key item) := by
  have hvariants : (renew key.selector item (Layout.variants l key.resource)).take v
      <+: (renew key.selector item (Layout.variants l' key.resource)).take v' :=
    isPrefix_take (isPrefix_renew (h.variants key.resource) key.selector item) hv
  exact take (.cons key.resource hvariants (h.others key.resource)) hc

end Within

end Layout

/-! ## Runs that agree -/

/-- The same removal, or writes of the same item under the same key. -/
inductive Effect.Agree : Effect → Effect → Prop
  | same (e : Effect) : Agree e e
  | write {w w' : Write} (key : w.key = w'.key) (item : w.item = w'.item) :
      Agree (.write w) (.write w')

/-- Operations that do the same: of two insertions, both succeed or both fail. -/
def Operation.Agree (op op' : Operation) : Prop := op.effect.Agree op'.effect

namespace Layout

variable {c c' v v' : Nat} {l l' : Layout}

theorem Within.apply (h : Within l l') (hc : c ≤ c') (hv : v ≤ v') {e e' : Effect}
    (he : e.Agree e') : Within (Layout.apply c v l e) (Layout.apply c' v' l' e') := by
  cases he with
  | same e =>
    cases e with
    | write w => exact h.write hc hv w.key w.item
    | invalidate resource => exact h.others resource
    | clear => exact .nil []
    | nothing => exact h
  | @write w w' hkey hitem =>
    show Within (Layout.write c v l w.key w.item) (Layout.write c' v' l' w'.key w'.item)
    rw [hkey, hitem]
    exact h.write hc hv w'.key w'.item

theorem Within.foldl_apply (h : Within l l') (hc : c ≤ c') (hv : v ≤ v')
    {ops ops' : List Operation} (hops : List.Forall₂ Operation.Agree ops ops') :
    Within ((effects ops).foldl (Layout.apply c v) l)
      ((effects ops').foldl (Layout.apply c' v') l') := by
  induction hops generalizing l l' with
  | nil => exact h
  | cons hop hrest ih => exact ih (h.apply hc hv hop)

end Layout

/-! ## What a larger store answers -/

namespace Store

variable {s s' : Store}

theorem get?_of_within (h : Layout.Within s.layout s'.layout) {key : Key} {item : Item}
    (hget : s.get? key = some item) : s'.get? key = some item := by
  rw [get?_eq_layout, Option.bind_eq_some_iff] at hget ⊢
  obtain ⟨vs, hvs, hitem⟩ := hget
  obtain ⟨vs', hvs', hprefix⟩ := h.value? hvs
  exact ⟨vs', hvs', value?_of_isPrefix hprefix hitem⟩

/-- The variants that a larger store has beyond the smaller one stand behind the ones they share,
so they do not answer first. -/
theorem lookup_of_within (h : Layout.Within s.layout s'.layout) {request : Request} {item : Item}
    (hlookup : (s.lookup request).1 = some item) : (s'.lookup request).1 = some item := by
  rw [lookup_eq_layout, Option.bind_eq_some_iff] at hlookup ⊢
  obtain ⟨vs, hvs, hhit⟩ := hlookup
  obtain ⟨vs', hvs', hprefix⟩ := h.value? hvs
  obtain ⟨f, hf, rfl⟩ := Option.map_eq_some_iff.mp hhit
  exact ⟨vs', hvs', Option.map_eq_some_iff.mpr ⟨f, hprefix.find?_eq_some hf, rfl⟩⟩

/-- A store with larger bounds that goes through the same holds at least as much, in the same order,
and answers at least as often, with the same items. -/
theorem hits_of_growth {c c' v v' : Nat} (hpos : 0 < c) (hc : c ≤ c') (hvpos : 0 < v)
    (hv : v ≤ v') {ops ops' : List Operation} (hops : List.Forall₂ Operation.Agree ops ops') :
    let small := (empty c v).run ops
    let large := (empty c' v').run ops'
    small.resources.keys <+: large.resources.keys ∧
    (∀ resource variants, small.resources.get? resource = some variants →
      ∃ variants', large.resources.get? resource = some variants' ∧
        variants.entries <+: variants'.entries) ∧
    (∀ key item, small.get? key = some item → large.get? key = some item) ∧
    (∀ request item, (small.lookup request).1 = some item →
      (large.lookup request).1 = some item) ∧
    small.size ≤ large.size ∧ small.resourceCount ≤ large.resourceCount := by
  intro small large
  have hwithin : Layout.Within small.layout large.layout := by
    rw [layout_run hpos hvpos, layout_run (by omega) (by omega)]
    exact Layout.Within.foldl_apply (.nil []) hc hv hops
  refine ⟨?_, ?_, fun _ _ => get?_of_within hwithin, fun _ _ => lookup_of_within hwithin, ?_, ?_⟩
  · rw [← map_fst_layout, ← map_fst_layout]
    exact hwithin.keys
  · intro resource variants hget
    have hvs : value? resource small.layout = some variants.entries := by
      rw [value?_layout, hget]
      rfl
    obtain ⟨vs', hvs', hprefix⟩ := hwithin.value? hvs
    rw [value?_layout] at hvs'
    obtain ⟨variants', hget', rfl⟩ := Option.map_eq_some_iff.mp hvs'
    exact ⟨variants', hget', hprefix⟩
  · rw [size_eq_sum, size_eq_sum]
    exact hwithin.sum_le
  · rw [resourceCount_eq_length, resourceCount_eq_length]
    exact hwithin.length_le

/-- One variant of one page against two of two. -/
theorem hits_of_growth_of_crowded :
    (((empty 1 1).run crowded).lookup (.forPage "c" [])).1 = some ⟨{}, 3⟩ ∧
    (((empty 2 2).run crowded).lookup (.forPage "c" [])).1 = some ⟨{}, 3⟩ ∧
    ((empty 1 1).run crowded).size ≤ ((empty 2 2).run crowded).size := by
  have hsame : List.Forall₂ Operation.Agree crowded crowded :=
    List.forall₂_same.mpr fun op _ => .same op.effect
  have hhit : (((empty 1 1).run crowded).lookup (.forPage "c" [])).1 = some ⟨{}, 3⟩ := by
    decide +kernel
  obtain ⟨-, -, -, hlookup, hsize, -⟩ :=
    hits_of_growth (by decide : 0 < 1) (by decide : 1 ≤ 2) (by decide : 0 < 1)
      (by decide : 1 ≤ 2) hsame
  exact ⟨hhit, hlookup _ _ hhit, hsize⟩

end Store

end VariantStore
